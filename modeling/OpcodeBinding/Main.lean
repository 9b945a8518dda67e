import OpcodeBinding.CommandLine.Report

/-- Prints the report of the reference tool and ends with its exit code. The log level comes from the
environment. -/
def main (arguments : List String) : IO UInt32 := do
  let report := OpcodeBinding.CommandLine.run arguments (← IO.getEnv "RUST_LOG")
  (← IO.getStdout).putStr report.stdout
  (← IO.getStderr).putStr report.stderr
  return report.exitCode.toUInt32
