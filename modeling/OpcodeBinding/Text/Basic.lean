/-! Texts as lists of characters: blanks, lines, numerals in a base between two and thirty-six, and the
likeness of two short texts. -/
namespace OpcodeBinding.Text

/-- The Unicode property White_Space. -/
def isBlank (c : Char) : Bool :=
  let n := c.toNat
  (0x9 ≤ n && n ≤ 0xD) || n == 0x20 || n == 0x85 || n == 0xA0 || n == 0x1680 ||
    (0x2000 ≤ n && n ≤ 0x200A) || n == 0x2028 || n == 0x2029 || n == 0x202F || n == 0x205F ||
    n == 0x3000

def trim (cs : List Char) : List Char :=
  ((cs.dropWhile isBlank).reverse.dropWhile isBlank).reverse

/-- A line feed, alone or after a carriage return, ends a line, and the last line may lack it. A
carriage return anywhere else is an ordinary character. -/
def lines : List Char → List (List Char)
  | [] => []
  | '\n' :: cs => [] :: lines cs
  | '\r' :: '\n' :: cs => [] :: lines cs
  | c :: cs =>
    match lines cs with
    | [] => [[c]]
    | line :: rest => (c :: line) :: rest

def digit? (base : Nat) (c : Char) : Option Nat :=
  let value? :=
    if '0' ≤ c ∧ c ≤ '9' then some (c.toNat - '0'.toNat)
    else if 'a' ≤ c ∧ c ≤ 'z' then some (c.toNat - 'a'.toNat + 10)
    else if 'A' ≤ c ∧ c ≤ 'Z' then some (c.toNat - 'A'.toNat + 10)
    else none
  value?.filter (· < base)

def digits? (base : Nat) (cs : List Char) : Option (List Nat) :=
  if cs.isEmpty then none else cs.mapM (digit? base)

def digitChar (d : Nat) : Char :=
  if d < 10 then Char.ofNat ('0'.toNat + d) else Char.ofNat ('A'.toNat + (d - 10))

def decimal (n : Nat) : List Char :=
  if n < 10 then [digitChar n] else decimal (n / 10) ++ [digitChar (n % 10)]

def signedDecimal : Int → List Char
  | .ofNat n => decimal n
  | .negSucc n => '-' :: decimal (n + 1)

/-- Each character of the first text, in order, is matched with the first equal one of the second
text that is not matched yet and stands at most `reach` places off. The result has the places. -/
def matchedPlaces (reach : Nat) (second : List Char) : List Char → Nat → List Nat → List Nat
  | [], _, taken => taken.reverse
  | c :: cs, place, taken =>
    let partner? := second.zipIdx.find? fun other =>
      other.1 == c && place ≤ other.2 + reach && other.2 ≤ place + reach &&
        !taken.contains other.2
    matchedPlaces reach second cs (place + 1) (partner?.elim taken fun other => other.2 :: taken)

/-- The Jaro similarity: the mean share of matched characters in the first text, in the second one,
and of matched characters that are not out of order, two of which make one transposition. The shares
are rounded before they are added, so a mean of exactly seven tenths may come out a little above. -/
def jaro (first second : List Char) : Float :=
  let reach := max first.length second.length / 2 - 1
  let places := matchedPlaces reach second first 0 []
  let inOrder := places.mergeSort
  let moved := (places.zip inOrder).countP fun pair => second[pair.1]? != second[pair.2]?
  let matched := places.length
  let share := fun (part whole : Nat) => part.toFloat / whole.toFloat
  if matched = 0 then 0
  else
    (share matched first.length + share matched second.length +
      share (matched - moved / 2) matched) / 3

/-- The likest of the texts, the last one of several, if any is more than seven tenths alike. -/
def likest? {α : Type} (text : List Char) (spelling : α → List Char) (candidates : List α) :
    Option α :=
  let better := fun (best? : Option (α × Float)) candidate =>
    let likeness := jaro text (spelling candidate)
    if likeness ≤ 0.7 then best?
    else
      match best? with
      | none => some (candidate, likeness)
      | some best => if likeness < best.2 then some best else some (candidate, likeness)
  (candidates.foldl better none).map Prod.fst

end OpcodeBinding.Text
