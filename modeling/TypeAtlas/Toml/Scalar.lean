import TypeAtlas.Toml.Value

/-!
# Scalar values of TOML

Strings of the four kinds, numbers, words, dates and times. Every reader takes a value off the front
of a text and gives the text that is left; what may follow is for the caller to say.
-/

set_option autoImplicit false

namespace TypeAtlas.Toml

/-- Takes something off the front of a text, if the text begins with it. -/
abbrev Parse (α : Type) := List Char → Option (α × List Char)

/-- A space or a tab. -/
def isBlank (c : Char) : Bool := c = ' ' || c = '\t'

/-- A character that may stand in a line: any but the control characters, and the tab. -/
def isPlain (c : Char) : Bool := c = '\t' || (0x20 ≤ c.toNat && c.toNat ≠ 0x7F)

/-- Drops spaces and tabs. -/
def skipBlanks (chars : List Char) : List Char := chars.dropWhile isBlank

/-- Takes the end of a line off the front of a text. -/
def newline? : List Char → Option (List Char)
  | '\n' :: rest => some rest
  | '\r' :: '\n' :: rest => some rest
  | _ => none

/-- Drops blanks and ends of lines. -/
def skipBlankLines : List Char → List Char
  | '\n' :: rest => skipBlankLines rest
  | '\r' :: '\n' :: rest => skipBlankLines rest
  | c :: rest => if isBlank c then skipBlankLines rest else c :: rest
  | [] => []

/-! ## Strings -/

/-- The number that a character is as a digit in a base. -/
def digit? (base : Nat) (c : Char) : Option Nat :=
  let n := c.toNat
  let value :=
    if 48 ≤ n ∧ n ≤ 57 then n - 48
    else if 97 ≤ n ∧ n ≤ 102 then n - 87
    else if 65 ≤ n ∧ n ≤ 70 then n - 55
    else base
  if value < base then some value else none

/-- The number that digits of a base spell. -/
def number? (base : Nat) (digits : List Char) : Option Nat :=
  digits.foldlM (fun n c => (digit? base c).map (n * base + ·)) 0

/-- The character of a number in hexadecimal, unless the number belongs to no character. -/
def numbered? (digits : List Char) : Option Char :=
  (number? 16 digits).bind fun n => if h : n.isValidChar then some (Char.ofNatAux n h) else none

/-- Reads what follows a backslash. -/
def escape? : Parse Char
  | 'b' :: rest => some ('\x08', rest)
  | 't' :: rest => some ('\t', rest)
  | 'n' :: rest => some ('\n', rest)
  | 'f' :: rest => some ('\x0C', rest)
  | 'r' :: rest => some ('\r', rest)
  | '"' :: rest => some ('"', rest)
  | '\\' :: rest => some ('\\', rest)
  | 'u' :: a :: b :: c :: d :: rest => (numbered? [a, b, c, d]).map fun char => (char, rest)
  | 'U' :: a :: b :: c :: d :: e :: f :: g :: h :: rest =>
    (numbered? [a, b, c, d, e, f, g, h]).map fun char => (char, rest)
  | _ => none

theorem length_escape {chars rest : List Char} {c : Char} (h : escape? chars = some (c, rest)) :
    rest.length < chars.length := by
  unfold escape? at h
  split at h <;> simp_all
  all_goals
    obtain ⟨_, _, rfl, rfl⟩ := h
    omega

theorem length_skipBlankLines (chars : List Char) :
    (skipBlankLines chars).length ≤ chars.length := by
  fun_induction skipBlankLines chars with
  | case1 rest ih => exact Nat.le_succ_of_le ih
  | case2 rest ih => exact Nat.le_succ_of_le (Nat.le_succ_of_le ih)
  | case3 c rest _ _ _ ih => exact Nat.le_succ_of_le ih
  | case4 c rest => exact Nat.le_refl _
  | case5 => exact Nat.le_refl _

theorem length_skipBlanks (chars : List Char) : (skipBlanks chars).length ≤ chars.length :=
  (List.dropWhile_sublist isBlank).length_le

theorem length_newline {chars rest : List Char} (h : newline? chars = some rest) :
    rest.length < chars.length := by
  unfold newline? at h
  split at h
  · obtain rfl := Option.some.inj h
    exact Nat.lt_succ_self _
  · obtain rfl := Option.some.inj h
    exact Nat.lt_succ_of_lt (Nat.lt_succ_self _)
  · exact absurd h (by simp)

/-- Reads a basic string in one line, after its opening mark. -/
def basicText : Parse (List Char)
  | [] => none
  | '"' :: rest => some ([], rest)
  | '\\' :: rest =>
    match _h : escape? rest with
    | some (c, after) => (basicText after).map fun (text, after) => (c :: text, after)
    | none => none
  | c :: rest =>
    if isPlain c then (basicText rest).map fun (text, after) => (c :: text, after) else none
termination_by chars => chars.length
decreasing_by
  · exact Nat.lt_succ_of_lt (length_escape _h)
  · exact Nat.lt_succ_self _

/-- What a backslash at the end of a line leaves of the text: it takes the end of the line and the
blanks and empty lines after it. -/
def lineContinuation? (chars : List Char) : Option (List Char) :=
  (newline? (skipBlanks chars)).map skipBlankLines

theorem length_lineContinuation {chars rest : List Char}
    (h : lineContinuation? chars = some rest) : rest.length < chars.length := by
  obtain ⟨after, hafter, rfl⟩ := Option.map_eq_some_iff.1 h
  have h₁ := length_newline hafter
  have h₂ := length_skipBlanks chars
  have h₃ := length_skipBlankLines after
  omega

/-- The marks that may still belong to a string of several lines after three marks: two at most, the
last three close it. -/
def extraMarks (mark : Char) (chars : List Char) : Nat :=
  min 2 (chars.takeWhile (· = mark)).length

/-- Reads a basic string of several lines, after its opening marks. -/
def multilineBasicText : Parse (List Char)
  | [] => none
  | '"' :: '"' :: '"' :: rest =>
    let extra := extraMarks '"' rest
    some (List.replicate extra '"', rest.drop extra)
  | '\r' :: '\n' :: rest =>
    (multilineBasicText rest).map fun (text, after) => ('\n' :: text, after)
  | '\\' :: rest =>
    match _h : lineContinuation? rest with
    | some after => multilineBasicText after
    | none =>
      match _h : escape? rest with
      | some (c, after) =>
        (multilineBasicText after).map fun (text, after) => (c :: text, after)
      | none => none
  | c :: rest =>
    if c = '\n' || isPlain c then
      (multilineBasicText rest).map fun (text, after) => (c :: text, after)
    else none
termination_by chars => chars.length
decreasing_by
  · exact Nat.lt_succ_of_lt (Nat.lt_succ_self _)
  · exact Nat.lt_succ_of_lt (length_lineContinuation _h)
  · exact Nat.lt_succ_of_lt (length_escape _h)
  · exact Nat.lt_succ_self _

/-- Reads a literal string in one line, after its opening mark. -/
def literalText : Parse (List Char)
  | [] => none
  | '\'' :: rest => some ([], rest)
  | c :: rest =>
    if isPlain c then (literalText rest).map fun (text, after) => (c :: text, after) else none

/-- Reads a literal string of several lines, after its opening marks. -/
def multilineLiteralText : Parse (List Char)
  | [] => none
  | '\'' :: '\'' :: '\'' :: rest =>
    let extra := extraMarks '\'' rest
    some (List.replicate extra '\'', rest.drop extra)
  | '\r' :: '\n' :: rest =>
    (multilineLiteralText rest).map fun (text, after) => ('\n' :: text, after)
  | c :: rest =>
    if c = '\n' || isPlain c then
      (multilineLiteralText rest).map fun (text, after) => (c :: text, after)
    else none

/-- Drops the end of the line right after the opening marks of a string of several lines. -/
def skipFirstNewline (chars : List Char) : List Char := (newline? chars).getD chars

/-- Reads a string in one line, with its marks. -/
def lineString? : Parse String
  | '"' :: rest => (basicText rest).map fun (text, after) => (String.ofList text, after)
  | '\'' :: rest => (literalText rest).map fun (text, after) => (String.ofList text, after)
  | _ => none

/-- Reads a string of any kind. -/
def string? : Parse String
  | '"' :: '"' :: '"' :: rest =>
    (multilineBasicText (skipFirstNewline rest)).map fun (text, after) =>
      (String.ofList text, after)
  | '\'' :: '\'' :: '\'' :: rest =>
    (multilineLiteralText (skipFirstNewline rest)).map fun (text, after) =>
      (String.ofList text, after)
  | chars => lineString? chars

/-! ## Numbers -/

/-- Reads digits of a base up to the first other character. Single underscores may stand between
them, and are dropped. -/
def digitRun (base : Nat) : List Char → List Char × List Char
  | '_' :: c :: rest =>
    if (digit? base c).isSome then
      let (digits, after) := digitRun base rest
      (c :: digits, after)
    else ([], '_' :: c :: rest)
  | c :: rest =>
    if (digit? base c).isSome then
      let (digits, after) := digitRun base rest
      (c :: digits, after)
    else ([], c :: rest)
  | [] => ([], [])

/-- Reads digits of a base, at least one, the first of them not after an underscore. -/
def digits? (base : Nat) : Parse (List Char)
  | [] => none
  | c :: rest =>
    if (digit? base c).isSome then
      let (digits, after) := digitRun base rest
      some (c :: digits, after)
    else none

/-- Reads a sign, if there is one; whether it is a minus. -/
def sign : List Char → Bool × List Char
  | '+' :: rest => (false, rest)
  | '-' :: rest => (true, rest)
  | chars => (false, chars)

/-- Reads the decimal digits of an integer: no zero comes before another digit. -/
def wholeDigits? : Parse (List Char)
  | '0' :: rest => some (['0'], rest)
  | chars => digits? 10 chars

/-- The integers that fit in 64 bits. -/
def fitting? (n : Int) : Option Int :=
  if -0x8000000000000000 ≤ n ∧ n < 0x8000000000000000 then some n else none

/-- Reads the digits of a base after its marker. -/
def marked? (base : Nat) (chars : List Char) : Option (Int × List Char) := do
  let (digits, rest) ← digits? base chars
  let n ← number? base digits
  return (← fitting? n, rest)

/-- Reads an integer. -/
def integer? : Parse Int
  | '0' :: 'x' :: rest => marked? 16 rest
  | '0' :: 'o' :: rest => marked? 8 rest
  | '0' :: 'b' :: rest => marked? 2 rest
  | chars => do
    let (negative, rest) := sign chars
    let (digits, rest) ← wholeDigits? rest
    let n ← number? 10 digits
    return (← fitting? (if negative then -n else n), rest)

/-- Reads the digits after a point. -/
def fraction? : Parse (List Char)
  | '.' :: rest => digits? 10 rest
  | _ => none

/-- Reads an exponent. -/
def exponent? : Parse Int
  | c :: rest =>
    if c = 'e' || c = 'E' then do
      let (negative, rest) := sign rest
      let (digits, rest) ← digits? 10 rest
      let n ← number? 10 digits
      return (if negative then -n else n, rest)
    else none
  | [] => none

/-- A decimal as a number; one too large for any, but not one too small, is refused. -/
def decimal? (negative : Bool) (whole fraction : List Char) (exponent : Int) :
    Option Decimal.Binary64 := do
  let digits ← number? 10 (whole ++ fraction)
  let value := Decimal.Binary64.ofDecimal negative digits (exponent - fraction.length)
  if value = .infinite false then none else some value

/-- Reads a decimal with a fraction, an exponent, or both. -/
def decimalFloat? : Parse Decimal.Binary64 := fun chars => do
  let (negative, rest) := sign chars
  let (whole, rest) ← wholeDigits? rest
  match fraction? rest with
  | some (fraction, rest) =>
    let (exponent, rest) := (exponent? rest).getD (0, rest)
    return (← decimal? negative whole fraction exponent, rest)
  | none =>
    let (exponent, rest) ← exponent? rest
    return (← decimal? negative whole [] exponent, rest)

/-- Reads infinity, or the value that is not a number. -/
def specialFloat? : Parse Decimal.Binary64 := fun chars =>
  let (negative, rest) := sign chars
  match rest with
  | 'i' :: 'n' :: 'f' :: rest => some (.infinite negative, rest)
  | 'n' :: 'a' :: 'n' :: rest => some (.nan, rest)
  | _ => none

/-! ## Dates and times -/

/-- Reads a number of a given width, within bounds. -/
def fixed? (width low high : Nat) : Parse Nat := fun chars => do
  let digits := chars.take width
  if digits.length < width then none
  let n ← number? 10 digits
  if low ≤ n ∧ n ≤ high then some (n, chars.drop width) else none

/-- Takes a character off the front of a text. -/
def mark? (c : Char) : List Char → Option (List Char)
  | d :: rest => if d = c then some rest else none
  | [] => none

/-- The number of days of a month. -/
def daysOf (year month : Nat) : Nat :=
  if month = 2 then
    if year % 4 = 0 ∧ (year % 100 ≠ 0 ∨ year % 400 = 0) then 29 else 28
  else if month = 4 ∨ month = 6 ∨ month = 9 ∨ month = 11 then 30
  else 31

/-- Takes a date off the front of a text. -/
def date? (chars : List Char) : Option (List Char) := do
  let (year, rest) ← fixed? 4 0 9999 chars
  let (month, rest) ← fixed? 2 1 12 (← mark? '-' rest)
  let (_, rest) ← fixed? 2 1 (daysOf year month) (← mark? '-' rest)
  return rest

/-- Takes hours and minutes off the front of a text. -/
def hourMinute? (chars : List Char) : Option (List Char) := do
  let (_, rest) ← fixed? 2 0 23 chars
  let (_, rest) ← fixed? 2 0 59 (← mark? ':' rest)
  return rest

/-- Takes a time off the front of a text. A leap second counts as the sixtieth. -/
def time? (chars : List Char) : Option (List Char) := do
  let rest ← hourMinute? chars
  let (_, rest) ← fixed? 2 0 60 (← mark? ':' rest)
  match rest with
  | '.' :: c :: after =>
    return if (digit? 10 c).isSome then after.dropWhile fun c => (digit? 10 c).isSome else rest
  | _ => return rest

/-- Takes an offset from universal time off the front of a text. -/
def offset? : List Char → Option (List Char)
  | c :: rest =>
    if c = 'Z' || c = 'z' then some rest
    else if c = '+' || c = '-' then hourMinute? rest
    else none
  | [] => none

/-- Takes what follows a date in a date with a time off the front of a text. -/
def timeOfDay? : List Char → Option (List Char)
  | c :: rest =>
    if c = 'T' || c = 't' || c = ' ' then
      (time? rest).map fun after => (offset? after).getD after
    else none
  | [] => none

/-- Takes a date, a time, or both off the front of a text. -/
def datetime? (chars : List Char) : Option (List Char) :=
  match date? chars with
  | some rest => some ((timeOfDay? rest).getD rest)
  | none => time? chars

/-! ## All kinds -/

/-- Reads a value that begins like a number. -/
def numeric? : Parse Value := fun chars =>
  (datetime? chars).map (fun rest => (.datetime, rest))
  <|> (decimalFloat? chars).map (fun (value, rest) => (.float value, rest))
  <|> (specialFloat? chars).map (fun (value, rest) => (.float value, rest))
  <|> (integer? chars).map fun (value, rest) => (.integer value, rest)

/-- Reads a value that holds no other values. -/
def scalar? : Parse Value
  | 't' :: 'r' :: 'u' :: 'e' :: rest => some (.boolean true, rest)
  | 'f' :: 'a' :: 'l' :: 's' :: 'e' :: rest => some (.boolean false, rest)
  | chars => (string? chars).map (fun (text, rest) => (.string text, rest)) <|> numeric? chars

end TypeAtlas.Toml
