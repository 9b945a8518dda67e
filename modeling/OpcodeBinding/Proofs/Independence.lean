import OpcodeBinding.Proofs.WorldHistory

/-! Two scripts on different regions of the world. However their instructions are interleaved, each script
is answered as if it ran alone, and leaves its region as if it ran alone. -/
namespace OpcodeBinding

inductive Region where
  | sky
  | objects
  deriving DecidableEq, Repr

/-- Worlds with the same time and weather, or with the same objects. -/
def World.AgreeOn : Region → World → World → Prop
  | .sky, v, w => v.hour = w.hour ∧ v.minute = w.minute ∧ v.weather = w.weather
  | .objects, v, w => v.objects = w.objects

theorem World.AgreeOn.refl (region : Region) (world : World) : AgreeOn region world world := by
  cases region with
  | sky => exact ⟨rfl, rfl, rfl⟩
  | objects => rfl

def Reply.shown {σ : Type} (reply : Reply σ) : Except ExecutionFault Answer × List Event :=
  (reply.answer, reply.events)

/-- The third list is made of the first two, each in its own order. The regions say from which list each
element comes. -/
inductive Interleaves {α : Type} : List Region → List α → List α → List α → Prop
  | nil : Interleaves [] [] [] []
  | sky {regions xs ys zs} (x : α) (rest : Interleaves regions xs ys zs) :
      Interleaves (.sky :: regions) (x :: xs) ys (x :: zs)
  | objects {regions xs ys zs} (y : α) (rest : Interleaves regions xs ys zs) :
      Interleaves (.objects :: regions) xs (y :: ys) (y :: zs)

namespace Command

open World (AgreeOn)

def region : Command → Region
  | .setTime | .getTime | .setWeather | .isRaining => .sky
  | .createObject | .destroyObject | .objectExists => .objects

variable {command : Command} {instruction : Instruction} {v w : World}

/-- A command reads and writes its own region only, so it cannot tell worlds apart that agree on it. -/
theorem call_congr (instruction : Instruction) (agree : AgreeOn command.region v w) :
    let x := command.callback.call instruction v
    let y := command.callback.call instruction w
    x.value = y.value ∧ x.notes = y.notes ∧ AgreeOn command.region x.state y.state := by
  intro x y
  cases command with
  | setTime =>
    obtain ⟨_, _, weather⟩ := agree
    exact ⟨rfl, rfl, rfl, rfl, weather⟩
  | getTime =>
    obtain ⟨hour, minute, weather⟩ := agree
    refine ⟨rfl, ?_, hour, minute, weather⟩
    simp only [x, y, callback, World.getTime, Callback.call, hour, minute]
  | setWeather =>
    obtain ⟨hour, minute, _⟩ := agree
    exact ⟨rfl, rfl, hour, minute, rfl⟩
  | createObject =>
    change v.objects = w.objects at agree
    refine ⟨rfl, rfl, ?_⟩
    cases named : instruction.integer? 0 <;>
      simp [x, y, callback, World.createObject, Callback.call, Callback.change, AgreeOn, region, named,
        agree]
  | destroyObject =>
    change v.objects = w.objects at agree
    refine ⟨rfl, rfl, ?_⟩
    cases named : instruction.integer? 0 <;>
      simp [x, y, callback, World.destroyObject, Callback.call, Callback.change, AgreeOn, region, named,
        agree]
  | objectExists =>
    change v.objects = w.objects at agree
    refine ⟨?_, rfl, agree⟩
    simp only [x, y, callback, World.objectExists, Callback.call, Callback.test, agree]
  | isRaining =>
    obtain ⟨hour, minute, weather⟩ := agree
    refine ⟨?_, rfl, hour, minute, weather⟩
    simp only [x, y, callback, World.isRaining, Callback.call, Callback.test, weather]

/-- A command leaves the other region as it is. -/
theorem call_frame {other : Region} (apart : other ≠ command.region) (world : World) :
    AgreeOn other (command.callback.call instruction world).state world := by
  cases command with
  | setTime | getTime | setWeather | isRaining =>
    cases other with
    | sky => contradiction
    | objects => rfl
  | createObject | destroyObject =>
    cases other with
    | sky =>
      cases named : instruction.integer? 0 <;>
        simp [callback, World.createObject, World.destroyObject, Callback.call, Callback.change,
          AgreeOn, named]
    | objects => contradiction
  | objectExists =>
    cases other with
    | sky => exact ⟨rfl, rfl, rfl⟩
    | objects => contradiction

end Command

namespace World

theorem AgreeOn.trans {region : Region} {u v w : World} (first : AgreeOn region u v)
    (second : AgreeOn region v w) : AgreeOn region u w := by
  cases region with
  | sky =>
    obtain ⟨hour, minute, weather⟩ := first
    exact ⟨hour.trans second.1, minute.trans second.2.1, weather.trans second.2.2⟩
  | objects => exact Eq.trans first second

section Execute

variable {command : Command} {instruction : Instruction} {v w : World}

/-- On worlds that agree on a command's region, its instructions are answered alike, refused ones among
them, and leave worlds that agree on it. -/
theorem execute_congr (known : instruction.opcode = command.opcode)
    (agree : AgreeOn command.region v w) :
    (registry.execute instruction v).shown = (registry.execute instruction w).shown ∧
      AgreeOn command.region (registry.execute instruction v).state
        (registry.execute instruction w).state := by
  by_cases fits : instruction.operandCount = command.argumentCount
  · have accepted : command.accepts instruction := accepts_iff.mpr ⟨known, fits⟩
    obtain ⟨value, notes, state⟩ := Command.call_congr instruction agree
    rw [execute_of_accepts accepted, execute_of_accepts accepted]
    refine ⟨?_, state⟩
    simp only [Reply.shown, value, notes]
  · rw [execute_of_miscounted known fits, execute_of_miscounted known fits]
    exact ⟨rfl, agree⟩

/-- An execution leaves the region of other commands as it was. -/
theorem execute_frame (known : instruction.opcode = command.opcode) {other : Region}
    (apart : other ≠ command.region) (world : World) :
    AgreeOn other (registry.execute instruction world).state world := by
  by_cases fits : instruction.operandCount = command.argumentCount
  · rw [execute_of_accepts (accepts_iff.mpr ⟨known, fits⟩)]
    exact Command.call_frame apart world
  · rw [execute_of_miscounted known fits]
    exact .refl other world

end Execute

def About (region : Region) (opcode : Opcode) : Prop :=
  ∃ command : Command, command.region = region ∧ opcode = command.opcode

/-- An instruction about one region is answered as on any world that agrees on it, and it keeps what
worlds agree on, in that region as in the other. -/
theorem execute_about {region other : Region} {instruction : Instruction} {u v w : World}
    (about : About region instruction.opcode) (apart : other ≠ region)
    (agree : AgreeOn region w u) (kept : AgreeOn other w v) :
    (registry.execute instruction w).shown = (registry.execute instruction u).shown ∧
      AgreeOn region (registry.execute instruction w).state (registry.execute instruction u).state ∧
      AgreeOn other (registry.execute instruction w).state v := by
  obtain ⟨command, rfl, known⟩ := about
  obtain ⟨shown, state⟩ := execute_congr known agree
  exact ⟨shown, state, (execute_frame known apart w).trans kept⟩

theorem about_sky_iff {opcode : Opcode} :
    About .sky opcode ↔ BoundIn environment opcode ∨ BoundIn weatherModule opcode := by
  rw [environment, weatherModule, boundIn_bindCommands (by simp) (by decide),
    boundIn_bindCommands (by simp) (by decide)]
  constructor
  · rintro ⟨command, about, rfl⟩
    cases command with
    | setTime | getTime | setWeather => exact .inl ⟨_, by decide, rfl⟩
    | isRaining => exact .inr ⟨_, by decide, rfl⟩
    | createObject | destroyObject | objectExists => contradiction
  · rintro (⟨command, listed, rfl⟩ | ⟨command, listed, rfl⟩)
    all_goals
      refine ⟨command, ?_, rfl⟩
      revert command
      decide

theorem about_objects_iff {opcode : Opcode} : About .objects opcode ↔ BoundIn objectModule opcode := by
  rw [objectModule, boundIn_bindCommands (by simp) (by decide)]
  constructor
  · rintro ⟨command, about, rfl⟩
    cases command with
    | setTime | getTime | setWeather | isRaining => contradiction
    | createObject | destroyObject | objectExists => exact ⟨_, by decide, rfl⟩
  · rintro ⟨command, listed, rfl⟩
    refine ⟨command, ?_, rfl⟩
    revert command
    decide

/-- The world of the interleaving agrees with that of the one script on the sky and with that of the
other on the objects. Every instruction keeps it so. -/
theorem run_of_interleaves {regions : List Region} {a b c : List Instruction}
    (woven : Interleaves regions a b c) (ha : ∀ i ∈ a, About .sky i.opcode)
    (hb : ∀ i ∈ b, About .objects i.opcode) {u v w : World} (sky : AgreeOn .sky w u)
    (objects : AgreeOn .objects w v) :
    Interleaves regions ((registry.run a u).map Reply.shown) ((registry.run b v).map Reply.shown)
        ((registry.run c w).map Reply.shown) ∧
      AgreeOn .sky (registry.finalState c w) (registry.finalState a u) ∧
      AgreeOn .objects (registry.finalState c w) (registry.finalState b v) := by
  induction woven generalizing u v w with
  | nil => exact ⟨.nil, sky, objects⟩
  | sky instruction rest ih =>
    rw [List.forall_mem_cons] at ha
    obtain ⟨shown, sky, objects⟩ := execute_about ha.1 (by decide) sky objects
    obtain ⟨replies, final⟩ := ih ha.2 hb sky objects
    refine ⟨?_, final⟩
    simp only [Registry.run, List.map_cons, shown]
    exact .sky _ replies
  | objects instruction rest ih =>
    rw [List.forall_mem_cons] at hb
    obtain ⟨shown, objects, sky⟩ := execute_about hb.1 (by decide) objects sky
    obtain ⟨replies, final⟩ := ih ha hb.2 sky objects
    refine ⟨?_, final⟩
    simp only [Registry.run, List.map_cons, shown]
    exact .objects _ replies

/-- Two scripts about different regions of the world are answered in any interleaving as each is alone,
and each leaves its own region as it would alone. -/
theorem replies_of_interleaves {regions : List Region} {a b c : List Instruction}
    (woven : Interleaves regions a b c)
    (ha : ∀ i ∈ a, BoundIn environment i.opcode ∨ BoundIn weatherModule i.opcode)
    (hb : ∀ i ∈ b, BoundIn objectModule i.opcode) (world : World) :
    build.run.value = .ok registry ∧
    Interleaves regions ((registry.run a world).map Reply.shown)
      ((registry.run b world).map Reply.shown) ((registry.run c world).map Reply.shown) ∧
    (registry.finalState c world).hour = (registry.finalState a world).hour ∧
    (registry.finalState c world).minute = (registry.finalState a world).minute ∧
    (registry.finalState c world).weather = (registry.finalState a world).weather ∧
    (registry.finalState c world).objects = (registry.finalState b world).objects := by
  have aboutSky : ∀ i ∈ a, About .sky i.opcode := fun i there => about_sky_iff.mpr (ha i there)
  have aboutObjects : ∀ i ∈ b, About .objects i.opcode := fun i there =>
    about_objects_iff.mpr (hb i there)
  obtain ⟨replies, ⟨hour, minute, weather⟩, objects⟩ := run_of_interleaves woven aboutSky
    aboutObjects (.refl .sky world) (.refl .objects world)
  exact ⟨build_eq_registry.1, replies, hour, minute, weather, objects⟩

theorem replies_of_interleaves_sunrise :
    let a : List Instruction :=
      [⟨Command.setTime.opcode, [.integer 6, .integer 30]⟩, ⟨Command.isRaining.opcode, []⟩]
    let b : List Instruction :=
      [⟨Command.createObject.opcode, [.integer 7, .integer 0, .integer 0, .integer 0]⟩,
        ⟨Command.destroyObject.opcode, []⟩]
    let c := [a[0], b[0], b[1], a[1]]
    Interleaves [.sky, .objects, .objects, .sky] a b c ∧
    (∀ i ∈ a, BoundIn environment i.opcode ∨ BoundIn weatherModule i.opcode) ∧
    (∀ i ∈ b, BoundIn objectModule i.opcode) ∧
    (registry.finalState c {}).hour = (registry.finalState a {}).hour ∧
    (registry.finalState c {}).objects = (registry.finalState b {}).objects := by
  intro a b c
  have woven : Interleaves [.sky, .objects, .objects, .sky] a b c :=
    .sky _ (.objects _ (.objects _ (.sky _ .nil)))
  have ha : ∀ i ∈ a, BoundIn environment i.opcode ∨ BoundIn weatherModule i.opcode := by
    simp only [a, List.forall_mem_cons, ← about_sky_iff]
    exact ⟨⟨.setTime, rfl, rfl⟩, ⟨.isRaining, rfl, rfl⟩, nofun⟩
  have hb : ∀ i ∈ b, BoundIn objectModule i.opcode := by
    simp only [b, List.forall_mem_cons, ← about_objects_iff]
    exact ⟨⟨.createObject, rfl, rfl⟩, ⟨.destroyObject, rfl, rfl⟩, nofun⟩
  obtain ⟨_, _, hour, _, _, objects⟩ := replies_of_interleaves woven ha hb {}
  exact ⟨woven, ha, hb, hour, objects⟩

end World

end OpcodeBinding
