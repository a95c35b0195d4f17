namespace Splice.Quoted

def escape (c : Char) : List Char :=
  match c with
  | '"' => ['\\', '"']
  | '\\' => ['\\', '\\']
  | '\x08' => ['\\', 'b']
  | '\x0c' => ['\\', 'f']
  | '\n' => ['\\', 'n']
  | '\r' => ['\\', 'r']
  | '\t' => ['\\', 't']
  | c =>
    if c.toNat < 0x20 then
      ['\\', 'u', '0', '0', Nat.digitChar (c.toNat / 16), Nat.digitChar (c.toNat % 16)]
    else [c]

def encode (s : List Char) : List Char := '"' :: (s.flatMap escape ++ ['"'])

/-- A character as it stands or by a one-letter escape, or a UTF-16 unit by its number. -/
inductive Piece where
  | char (c : Char)
  | unit (n : Nat)
  deriving DecidableEq

def letterEscape? : Char → Option Char
  | '"' => some '"'
  | '\\' => some '\\'
  | '/' => some '/'
  | 'b' => some '\x08'
  | 'f' => some '\x0c'
  | 'n' => some '\n'
  | 'r' => some '\r'
  | 't' => some '\t'
  | _ => none

def hexDigit? (c : Char) : Option Nat :=
  if '0' ≤ c ∧ c ≤ '9' then some (c.toNat - '0'.toNat)
  else if 'a' ≤ c ∧ c ≤ 'f' then some (c.toNat - 'a'.toNat + 10)
  else if 'A' ≤ c ∧ c ≤ 'F' then some (c.toNat - 'A'.toNat + 10)
  else none

def unit? (a b c d : Char) : Option Nat := do
  return 4096 * (← hexDigit? a) + 256 * (← hexDigit? b) + 16 * (← hexDigit? c) + (← hexDigit? d)

def pieces? : List Char → Option (List Piece × List Char)
  | [] => none
  | '"' :: rest => some ([], rest)
  | '\\' :: 'u' :: a :: b :: c :: d :: r =>
    match unit? a b c d, pieces? r with
    | some n, some (ps, rest) => some (.unit n :: ps, rest)
    | _, _ => none
  | '\\' :: e :: r =>
    match letterEscape? e, pieces? r with
    | some c, some (ps, rest) => some (.char c :: ps, rest)
    | _, _ => none
  | c :: r =>
    if c = '\\' ∨ c.toNat < 0x20 then none
    else match pieces? r with
      | some (ps, rest) => some (.char c :: ps, rest)
      | none => none

def isHigh (n : Nat) : Bool := decide (0xD800 ≤ n ∧ n ≤ 0xDBFF)

def isLow (n : Nat) : Bool := decide (0xDC00 ≤ n ∧ n ≤ 0xDFFF)

def pair (high low : Nat) : Char :=
  Char.ofNat (0x10000 + 0x400 * (high - 0xD800) + (low - 0xDC00))

/-- The characters of the pieces, unless a surrogate unit stands alone. -/
def characters? : List Piece → Option (List Char)
  | [] => some []
  | .char c :: ps => (characters? ps).map (c :: ·)
  | .unit m :: .unit n :: ps =>
    if isHigh m then
      if isLow n then (characters? ps).map (pair m n :: ·) else none
    else if isLow m then none
    else (characters? (.unit n :: ps)).map (Char.ofNat m :: ·)
  | .unit m :: ps =>
    if isHigh m || isLow m then none else (characters? ps).map (Char.ofNat m :: ·)

theorem pieces?_length {s : List Char} {ps : List Piece} {rest : List Char}
    (h : pieces? s = some (ps, rest)) : rest.length < s.length := by
  fun_induction pieces? s generalizing ps with
  | case1 | case4 | case6 | case7 | case9 => simp at h
  | case2 => simp_all
  | case3 | case5 | case8 => simp only [List.length_cons]; grind

end Splice.Quoted
