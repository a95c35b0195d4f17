import Mathlib.Data.List.Forall2
import Splice.Proofs.StringLiteral

namespace Splice.Quoted

def IsHexDigit (n : Nat) (c : Char) : Prop :=
  c = Nat.digitChar n ∨ c = (Nat.digitChar n).toUpper

def IsHex (n : Nat) (ds : List Char) : Prop :=
  List.Forall₂ IsHexDigit [n / 4096, n / 256 % 16, n / 16 % 16, n % 16] ds

def highUnit (c : Char) : Nat := 0xD800 + (c.toNat - 0x10000) / 0x400

def lowUnit (c : Char) : Nat := 0xDC00 + (c.toNat - 0x10000) % 0x400

def units (c : Char) : List Nat :=
  if c.toNat < 0x10000 then [c.toNat] else [highUnit c, lowUnit c]

def letters : List (Char × Char) :=
  [('"', '"'), ('\\', '\\'), ('/', '/'), ('b', '\x08'), ('f', '\x0c'), ('n', '\n'), ('r', '\r'),
    ('t', '\t')]

inductive Spelling (c : Char) : List Char → Prop where
  | raw (hq : c ≠ '"') (hb : c ≠ '\\') (hc : 0x20 ≤ c.toNat) : Spelling c [c]
  | letter {e : Char} (he : (e, c) ∈ letters) : Spelling c ['\\', e]
  | units {texts : List (List Char)} (ht : List.Forall₂ IsHex (units c) texts) :
    Spelling c (texts.flatMap fun ds => '\\' :: 'u' :: ds)

theorem hexDigit?_of_isHexDigit {n : Nat} (hn : n < 16) {c : Char} (h : IsHexDigit n c) :
    hexDigit? c = some n := by
  have hd : ∀ m < 16, hexDigit? (Nat.digitChar m) = some m ∧
      hexDigit? (Nat.digitChar m).toUpper = some m := by decide
  rcases h with rfl | rfl
  · exact (hd n hn).1
  · exact (hd n hn).2

theorem unit?_of_isHex {n : Nat} (hn : n < 0x10000) {ds : List Char} (h : IsHex n ds) :
    ∃ a b c d, ds = [a, b, c, d] ∧ unit? a b c d = some n := by
  unfold IsHex at h
  obtain _ | ⟨ha, _ | ⟨hb, _ | ⟨hc, _ | ⟨hd, _ | _⟩⟩⟩⟩ := h
  refine ⟨_, _, _, _, rfl, ?_⟩
  simp only [unit?, hexDigit?_of_isHexDigit (by omega : n / 4096 < 16) ha,
    hexDigit?_of_isHexDigit (by omega : n / 256 % 16 < 16) hb,
    hexDigit?_of_isHexDigit (by omega : n / 16 % 16 < 16) hc,
    hexDigit?_of_isHexDigit (by omega : n % 16 < 16) hd]
  change some _ = some n
  congr 1
  omega

theorem pieces?_hex {n : Nat} (hn : n < 0x10000) {ds : List Char} (h : IsHex n ds) (s : List Char) :
    pieces? ('\\' :: 'u' :: (ds ++ s)) = (pieces? s).map fun p => (.unit n :: p.1, p.2) := by
  obtain ⟨a, b, c, d, rfl, hu⟩ := unit?_of_isHex hn h
  cases hs : pieces? s <;> simp [pieces?, hu, hs]

/-- What is written for a character is read as pieces that stand for this character. -/
def Reads (c : Char) (text : List Char) (ps : List Piece) : Prop :=
  (∀ s, pieces? (text ++ s) = (pieces? s).map fun p => (ps ++ p.1, p.2)) ∧
    ∀ qs, characters? (ps ++ qs) = (characters? qs).map (c :: ·)

theorem reads_raw {c : Char} (hq : c ≠ '"') (hb : c ≠ '\\') (hc : 0x20 ≤ c.toNat) :
    Reads c [c] [.char c] := by
  refine ⟨fun s => ?_, fun qs => rfl⟩
  have hc : ¬ c.toNat < 0x20 := by omega
  rw [List.singleton_append, pieces?]
  · cases hs : pieces? s <;> simp_all
  all_goals simp_all

theorem reads_letter {e c : Char} (h : (e, c) ∈ letters) : Reads c ['\\', e] [.char c] := by
  refine ⟨fun s => ?_, fun qs => rfl⟩
  simp only [letters, List.mem_cons, Prod.mk.injEq, List.not_mem_nil, or_false] at h
  rcases h with ⟨rfl, rfl⟩ | ⟨rfl, rfl⟩ | ⟨rfl, rfl⟩ | ⟨rfl, rfl⟩ | ⟨rfl, rfl⟩ | ⟨rfl, rfl⟩ |
    ⟨rfl, rfl⟩ | ⟨rfl, rfl⟩ <;>
    cases hs : pieces? s <;> simp [pieces?, letterEscape?, hs]

theorem not_surrogate (c : Char) : isHigh c.toNat = false ∧ isLow c.toNat = false := by
  have hv : c.toNat < 0xD800 ∨ 0xDFFF < c.toNat ∧ c.toNat < 0x110000 := c.valid
  exact ⟨decide_eq_false (by omega), decide_eq_false (by omega)⟩

theorem isHigh_highUnit (c : Char) : isHigh (highUnit c) = true := by
  have hv : c.toNat < 0xD800 ∨ 0xDFFF < c.toNat ∧ c.toNat < 0x110000 := c.valid
  unfold highUnit
  exact decide_eq_true (by omega)

theorem isLow_lowUnit (c : Char) : isLow (lowUnit c) = true := by
  unfold lowUnit
  exact decide_eq_true (by omega)

theorem pair_units {c : Char} (h : 0x10000 ≤ c.toNat) : pair (highUnit c) (lowUnit c) = c := by
  have hn : 0x10000 + 0x400 * (highUnit c - 0xD800) + (lowUnit c - 0xDC00) = c.toNat := by
    unfold highUnit lowUnit
    omega
  rw [pair, hn, Char.ofNat_toNat]

theorem units_lt {c : Char} {n : Nat} (h : n ∈ units c) : n < 0x10000 := by
  unfold units at h
  split at h
  · next hc => rwa [List.mem_singleton.1 h]
  · have hh := of_decide_eq_true (isHigh_highUnit c)
    have hl := of_decide_eq_true (isLow_lowUnit c)
    simp only [List.mem_cons, List.not_mem_nil, or_false] at h
    rcases h with h | h <;> omega

theorem pieces?_units {ns : List Nat} {texts : List (List Char)} (h : List.Forall₂ IsHex ns texts)
    (hn : ∀ n ∈ ns, n < 0x10000) (s : List Char) :
    pieces? ((texts.flatMap fun ds => '\\' :: 'u' :: ds) ++ s) =
      (pieces? s).map fun p => (ns.map .unit ++ p.1, p.2) := by
  induction h with
  | nil => simp
  | cons hd _ ih =>
    obtain ⟨hn, ht⟩ := List.forall_mem_cons.1 hn
    rw [List.flatMap_cons, List.append_assoc, List.cons_append, List.cons_append,
      pieces?_hex hn hd, ih ht, Option.map_map]
    rfl

theorem characters?_units (c : Char) (ps : List Piece) :
    characters? ((units c).map .unit ++ ps) = (characters? ps).map (c :: ·) := by
  unfold units
  split
  · obtain ⟨hh, hl⟩ := not_surrogate c
    simpa using characters?_unit hh hl ps
  · next hc =>
    simp [characters?, isHigh_highUnit, isLow_lowUnit, pair_units (Nat.le_of_not_lt hc)]

theorem Spelling.reads {c : Char} {text : List Char} (h : Spelling c text) :
    ∃ ps, Reads c text ps := by
  cases h with
  | raw hq hb hc => exact ⟨_, reads_raw hq hb hc⟩
  | letter he => exact ⟨_, reads_letter he⟩
  | units ht => exact ⟨_, pieces?_units ht fun _ => units_lt, characters?_units c⟩

theorem pieces?_of_spelled {s : List Char} {texts : List (List Char)}
    (h : List.Forall₂ Spelling s texts) (rest : List Char) :
    ∃ ps, pieces? (texts.flatten ++ '"' :: rest) = some (ps, rest) ∧ characters? ps = some s := by
  induction h with
  | nil => exact ⟨[], by simp [pieces?], rfl⟩
  | cons hc _ ih =>
    obtain ⟨ps, hp, hs⟩ := ih
    obtain ⟨qs, hq, hc⟩ := hc.reads
    refine ⟨qs ++ ps, ?_, ?_⟩
    · rw [List.flatten_cons, List.append_assoc, hq, hp, Option.map_some]
    · rw [hc, hs, Option.map_some]

theorem isHex_control {n : Nat} (h : n < 0x20) :
    IsHex n ['0', '0', Nat.digitChar (n / 16), Nat.digitChar (n % 16)] := by
  have hd : [n / 4096, n / 256 % 16, n / 16 % 16, n % 16].map Nat.digitChar =
      ['0', '0', Nat.digitChar (n / 16), Nat.digitChar (n % 16)] := by
    revert n
    decide
  rw [IsHex, ← hd, List.forall₂_map_right_iff]
  exact List.forall₂_same.2 fun _ _ => .inl rfl

theorem spelling_escape (c : Char) : Spelling c (escape c) := by
  unfold escape
  split
  case h_8 _ hq hb _ _ _ _ _ =>
    by_cases h : c.toNat < 0x20
    · rw [if_pos h]
      have hu : units c = [c.toNat] := if_pos (by omega)
      have ht := List.Forall₂.cons (isHex_control h) .nil
      rw [← hu] at ht
      exact .units ht
    · rw [if_neg h]
      exact .raw hq hb (by omega)
  all_goals exact .letter (by decide)

theorem forall₂_spelling_escape (s : List Char) : List.Forall₂ Spelling s (s.map escape) := by
  rw [List.forall₂_map_right_iff]
  exact List.forall₂_same.2 fun c _ => spelling_escape c

end Splice.Quoted
