/-!
# Punycode

Labels of other scripts written with letters, digits and hyphens. The ASCII characters of a label
come first; behind a hyphen the others follow in the order of their code points, each as the
distance from the one before, in digits of base 36 whose places adapt to the distances seen.
-/

namespace AlertLine.Punycode

/-- The digit for a value below 36. -/
def digit (d : Nat) : Char :=
  if d < 26 then Char.ofNat ('a'.toNat + d) else Char.ofNat ('0'.toNat + (d - 26))

/-- The value of a digit. -/
def value? (c : Char) : Option Nat :=
  if 'a' ≤ c && c ≤ 'z' then some (c.toNat - 'a'.toNat)
  else if 'A' ≤ c && c ≤ 'Z' then some (c.toNat - 'A'.toNat)
  else if '0' ≤ c && c ≤ '9' then some (c.toNat - '0'.toNat + 26)
  else none

/-- The first code point that has to be coded. -/
def firstCoded : Nat := 0x80

/-- The bias at the start. -/
def firstBias : Nat := 72

/-- How many values of the place `k` end a number. -/
def threshold (k bias : Nat) : Nat :=
  if k ≤ bias then 1 else if bias + 26 ≤ k then 26 else k - bias

theorem one_le_threshold (k bias : Nat) : 1 ≤ threshold k bias := by
  unfold threshold
  split
  · omega
  · split <;> omega

/-- Scales a distance down until it is small, counting the places. -/
def scaleDown (delta k : Nat) : Nat × Nat :=
  if 455 < delta then scaleDown (delta / 35) (k + 36) else (delta, k)
termination_by delta
decreasing_by exact Nat.div_lt_self (by omega) (by omega)

/-- The bias after a distance, when so many characters are placed. -/
def adapt (delta count : Nat) (isFirst : Bool) : Nat :=
  let damped := if isFirst then delta / 700 else delta / 2
  let scaled := scaleDown (damped + damped / count) 0
  scaled.2 + 36 * scaled.1 / (scaled.1 + 38)

/-! ## Writing -/

/-- The digits of a distance from the place `k` on. -/
def distanceDigits (bias k q : Nat) : List Char :=
  let t := threshold k bias
  if q < t then [digit q]
  else digit (t + (q - t) % (36 - t)) :: distanceDigits bias (k + 36) ((q - t) / (36 - t))
termination_by q
decreasing_by
  have := one_le_threshold k bias
  exact Nat.lt_of_le_of_lt (Nat.div_le_self _ _) (by omega)

/-- The coding so far. -/
structure Coding where
  /-- The digits in reverse. -/
  digits : List Char
  /-- The distance from the last character placed. -/
  delta : Nat
  /-- The bias. -/
  bias : Nat
  /-- How many characters are placed. -/
  placed : Nat

/-- Passes over one character while the code point `m` is placed. -/
def Coding.pass (basicCount m : Nat) (s : Coding) (c : Char) : Coding :=
  if c.toNat < m then { s with delta := s.delta + 1 }
  else if c.toNat = m then
    { digits := (distanceDigits s.bias 36 s.delta).reverse ++ s.digits
      delta := 0
      bias := adapt s.delta (s.placed + 1) (s.placed == basicCount)
      placed := s.placed + 1 }
  else s

/-- Places the code points in ascending order, from `n` on. -/
def placeAll (label : List Char) (basicCount : Nat) : List Nat → Nat → Coding → Coding
  | [], _, s => s
  | m :: ms, n, s =>
    let s := label.foldl (Coding.pass basicCount m)
      { s with delta := s.delta + (m - n) * (s.placed + 1) }
    placeAll label basicCount ms (m + 1) { s with delta := s.delta + 1 }

/-- A list in ascending order without repetitions. -/
def ascending (ns : List Nat) : List Nat :=
  (ns.mergeSort (· ≤ ·)).eraseDups

/-- The coded form of a label. -/
def encode (label : List Char) : List Char :=
  let basic := label.filter fun c => c.toNat < firstCoded
  let others := (label.filter fun c => firstCoded ≤ c.toNat).map Char.toNat
  let coding := placeAll label basic.length (ascending others) firstCoded
    ⟨[], 0, firstBias, basic.length⟩
  basic ++ (if basic.isEmpty then [] else ['-']) ++ coding.digits.reverse

/-! ## Reading -/

/-- The reading so far. -/
structure Reading where
  /-- The characters placed. -/
  output : List Char
  /-- The code point that is placed next. -/
  next : Nat
  /-- Where the last character was placed, and one further. -/
  start : Nat
  /-- The distance read so far, counted from `start`. -/
  position : Nat
  /-- The bias. -/
  bias : Nat
  /-- The weight of the digit that is read next. -/
  weight : Nat
  /-- The place of the digit that is read next. -/
  place : Nat

/-- The greatest distance that is read. -/
def greatest : Nat := UInt32.size - 1

/-- A code point that is a character. -/
def isCharacter (n : Nat) : Bool := n < 0xD800 || (0xE000 ≤ n && n < 0x110000)

/-- Reads one digit. -/
def Reading.step (r : Reading) (c : Char) : Option Reading := do
  let d ← value? c
  let position := r.position + d * r.weight
  if greatest < position then none
  else
    let t := threshold r.place r.bias
    if t ≤ d then
      let weight := r.weight * (36 - t)
      if greatest < weight then none
      else some { r with position := position, weight := weight, place := r.place + 36 }
    else
      let count := r.output.length + 1
      let next := r.next + position / count
      let at' := position % count
      if isCharacter next then
        some {
          output := r.output.take at' ++ Char.ofNat next :: r.output.drop at'
          next := next
          start := at' + 1
          position := at' + 1
          bias := adapt (position - r.start) count (r.start == 0)
          weight := 1
          place := 36 }
      else none

/-- The characters in front of the last hyphen, and the digits behind it. A hyphen that nothing
stands in front of is no separator. -/
def splitBasic (cs : List Char) : List Char × List Char :=
  match cs.reverse.dropWhile (· != '-') with
  | [] | [_] => ([], cs)
  | _ :: basic => (basic.reverse, (cs.reverse.takeWhile (· != '-')).reverse)

/-- The label that a coded form stands for. -/
def decode (cs : List Char) : Option (List Char) := do
  let (basic, digits) := splitBasic cs
  if basic.all fun c => c.toNat < firstCoded then
    let r ← digits.foldlM Reading.step ⟨basic, firstCoded, 0, 0, firstBias, 1, 36⟩
    if r.place = 36 ∧ r.weight = 1 then some r.output else none
  else none

end AlertLine.Punycode
