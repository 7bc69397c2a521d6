import LoopScope.Json.Scan
/-!
# Printed words are read back

The reader of string literals undoes what the printer escapes, character by character, and the
reader of numbers takes just the digits of a natural number if no other digit, point or exponent
follows them.
-/
namespace LoopScope.Json

/-! ## Characters -/

/-- The three ways in which a character is printed: as a backslash and a letter, by its number, or
as it is. -/
inductive Escaped (c : Char) : List Char → Prop
  | short {l : Char} (stands : shortEscape? l = some c) (ne : l ≠ 'u') : Escaped c ['\\', l]
  | control (lt : c.toNat < 32) : Escaped c (controlEscape c.toNat)
  | plain (quote : c ≠ '"') (backslash : c ≠ '\\') (le : ¬ c < ' ') : Escaped c [c]

theorem escaped_escapeChar (c : Char) : Escaped c (escapeChar c) := by
  unfold escapeChar
  split
  · subst c
    exact .short rfl (by decide)
  split
  · subst c
    exact .short rfl (by decide)
  split
  · subst c
    exact .short rfl (by decide)
  split
  · subst c
    exact .short rfl (by decide)
  split
  · subst c
    exact .short rfl (by decide)
  split
  · subst c
    exact .short rfl (by decide)
  split
  · subst c
    exact .short rfl (by decide)
  split
  · exact .control ‹_›
  · exact .plain ‹_› ‹_› ‹_›

/-- The two digits of a control character. -/
theorem pair_control : ∀ n < 32, ∃ a b, Hex.pair n = [a, b] ∧
    (a ≠ '"' ∧ a ≠ '\\') ∧ (b ≠ '"' ∧ b ≠ '\\') ∧ Hex.number? ['0', '0', a, b] = some n := by
  intro n hn
  have hall : ∀ n < 32, ((n / 16).digitChar ≠ '"' ∧ (n / 16).digitChar ≠ '\\') ∧
      ((n % 16).digitChar ≠ '"' ∧ (n % 16).digitChar ≠ '\\') ∧
      Hex.number? ['0', '0', (n / 16).digitChar, (n % 16).digitChar] = some n := by
    decide
  exact ⟨_, _, rfl, hall n hn⟩

/-! ## The inside of a literal -/

theorem splitLiteral_cons {c : Char} (hquote : c ≠ '"') (hbackslash : c ≠ '\\') (s : List Char) :
    splitLiteral (c :: s) = (splitLiteral s).map fun p => (c :: p.1, p.2) :=
  splitLiteral.eq_4 c s hquote fun _ _ h => (hbackslash h).elim

variable {c : Char} {written : List Char}

theorem splitLiteral_escaped (h : Escaped c written) (s : List Char) :
    splitLiteral (written ++ s) = (splitLiteral s).map fun p => (written ++ p.1, p.2) := by
  cases h with
  | short stands ne => rfl
  | control lt =>
    obtain ⟨a, b, hpair, ⟨haq, hab⟩, ⟨hbq, hbb⟩, -⟩ := pair_control _ lt
    have hzero (t : List Char) := splitLiteral_cons (c := '0') (by decide) (by decide) t
    rw [controlEscape, hpair]
    calc splitLiteral ('\\' :: 'u' :: '0' :: '0' :: a :: b :: s)
        = (splitLiteral ('0' :: '0' :: a :: b :: s)).map fun p => ('\\' :: 'u' :: p.1, p.2) := rfl
      _ = (splitLiteral s).map fun p => ('\\' :: 'u' :: '0' :: '0' :: a :: b :: p.1, p.2) := by
          rw [hzero, hzero, splitLiteral_cons haq hab, splitLiteral_cons hbq hbb]
          cases splitLiteral s <;> rfl
  | plain quote backslash le => exact splitLiteral_cons quote backslash s

theorem wellEscaped_escaped (h : Escaped c written) (s : List Char) :
    wellEscaped (written ++ s) = wellEscaped s := by
  cases h with
  | short stands ne =>
    have hshort := wellEscaped.eq_3 _ s fun _ _ _ _ _ h => (ne h).elim
    exact hshort.trans (by rw [stands, Option.isSome_some, Bool.true_and])
  | control lt =>
    obtain ⟨a, b, hpair, -, -, hnumber⟩ := pair_control _ lt
    have hcontrol := wellEscaped.eq_2 '0' '0' a b s
    rw [hnumber, Option.isSome_some, Bool.true_and] at hcontrol
    rw [controlEscape, hpair]
    exact hcontrol
  | plain quote backslash le =>
    have hplain := wellEscaped.eq_4 c s (fun _ _ _ _ _ h => (backslash h).elim)
      fun _ _ h => (backslash h).elim
    rw [bne_iff_ne.mpr backslash, decide_eq_false le] at hplain
    exact hplain

theorem unescape_escaped (h : Escaped c written) (s : List Char) :
    unescape (written ++ s) = (unescape s).map (c :: ·) := by
  cases h with
  | short stands ne =>
    have hshort := unescape.eq_3 _ s fun _ _ _ _ _ h => (ne h).elim
    rw [stands] at hshort
    exact hshort
  | control lt =>
    obtain ⟨a, b, hpair, -, -, hnumber⟩ := pair_control _ lt
    have hcontrol := unescape.eq_2 '0' '0' a b s
    rw [hnumber] at hcontrol
    dsimp only at hcontrol
    rw [if_neg (by omega), if_neg (by omega), Char.ofNat_toNat] at hcontrol
    rw [controlEscape, hpair]
    exact hcontrol
  | plain quote backslash le =>
    have hplain := unescape.eq_4 c s (fun _ _ _ _ _ h => (backslash h).elim)
      fun _ _ h => (backslash h).elim
    rw [if_neg backslash] at hplain
    exact hplain

theorem escape_cons (c : Char) (s : List Char) : escape (c :: s) = escapeChar c ++ escape s := rfl

theorem splitLiteral_escape (s rest : List Char) :
    splitLiteral (escape s ++ '"' :: rest) = some (escape s, rest) := by
  induction s with
  | nil => rfl
  | cons c s ih =>
    rw [escape_cons, List.append_assoc, splitLiteral_escaped (escaped_escapeChar c), ih]
    rfl

theorem wellEscaped_escape (s : List Char) : wellEscaped (escape s) = true := by
  induction s with
  | nil => rfl
  | cons c s ih => rw [escape_cons, wellEscaped_escaped (escaped_escapeChar c), ih]

theorem unescape_escape (s : List Char) : unescape (escape s) = some s := by
  induction s with
  | nil => rfl
  | cons c s ih =>
    rw [escape_cons, unescape_escaped (escaped_escapeChar c), ih]
    rfl

/-- A printed text is read back. -/
theorem readLiteral_escape (s : String) (rest : List Char) :
    readLiteral (escape s.toList ++ '"' :: rest) = some (.text s, rest) := by
  rw [readLiteral, splitLiteral_escape]
  dsimp only
  rw [if_pos (wellEscaped_escape _), unescape_escape]
  dsimp only
  rw [String.ofList_toList]

/-! ## Natural numbers -/

/-- What a number cannot go on with. -/
def Ends (s : List Char) : Prop :=
  ∀ c, s.head? = some c → c.isDigit = false ∧ c ≠ '.' ∧ c ≠ 'e' ∧ c ≠ 'E'

theorem ends_nil : Ends [] := nofun

theorem ends_cons {c : Char} (h : c.isDigit = false ∧ c ≠ '.' ∧ c ≠ 'e' ∧ c ≠ 'E')
    (s : List Char) : Ends (c :: s) := by
  intro d hd
  cases hd
  exact h

theorem isDigit_of_mem_toDigits {n : Nat} : ∀ c ∈ Nat.toDigits 10 n, c.isDigit = true :=
  fun _ => Nat.isDigit_of_mem_toDigits (by decide) (by decide)

/-- No leading zeros are printed. -/
theorem head?_toDigits {n : Nat} (h : 0 < n) : (Nat.toDigits 10 n).head? ≠ some '0' := by
  induction n using Nat.strongRecOn with
  | ind n ih =>
    by_cases hn : n < 10
    · have hall : ∀ n < 10, 0 < n → n.digitChar ≠ '0' := by decide
      rw [Nat.toDigits_of_lt_base hn]
      exact fun he => hall n hn h (Option.some.inj he)
    · have hdiv := ih (n / 10) (by omega) (by omega)
      rw [Nat.toDigits_of_base_le (by decide) (by omega), List.head?_append]
      cases hd : (Nat.toDigits 10 (n / 10)).head? with
      | none => exact (Nat.toDigits_ne_nil (List.head?_eq_none_iff.mp hd)).elim
      | some d =>
        rw [hd] at hdiv
        exact hdiv

theorem digits1?_toDigits (n : Nat) {rest : List Char} (h : Ends rest) :
    digits1? (Nat.toDigits 10 n ++ rest) = some (Nat.toDigits 10 n, rest) := by
  have htake : rest.takeWhile Char.isDigit = [] := by
    cases rest with
    | nil => rfl
    | cons c rest => exact List.takeWhile_cons_of_neg (by simp [(h c rfl).1])
  have hdrop : rest.dropWhile Char.isDigit = rest := by
    cases rest with
    | nil => rfl
    | cons c rest => exact List.dropWhile_cons_of_neg (by simp [(h c rfl).1])
  rw [digits1?, List.takeWhile_append_of_pos isDigit_of_mem_toDigits,
    List.dropWhile_append_of_pos isDigit_of_mem_toDigits, htake, hdrop, List.append_nil]
  cases hd : Nat.toDigits 10 n with
  | nil => exact (Nat.toDigits_ne_nil hd).elim
  | cons d ds => rfl

theorem fraction?_of_ends {rest : List Char} (h : Ends rest) :
    fraction? rest = some ([], rest) := by
  cases rest with
  | nil => rfl
  | cons c rest => exact fraction?.eq_2 _ fun s hs => (h c rfl).2.1 (List.cons.inj hs).1

theorem exponent?_of_ends {rest : List Char} (h : Ends rest) :
    exponent? rest = some ([], rest) := by
  cases rest with
  | nil => rfl
  | cons c rest =>
    obtain ⟨-, -, he, hE⟩ := h c rfl
    exact if_neg (not_or.mpr ⟨he, hE⟩)

theorem magnitude?_toDigits (n : Nat) {rest : List Char} (h : Ends rest) :
    magnitude? (Nat.toDigits 10 n ++ rest) = some (Nat.toDigits 10 n, [], rest) := by
  have hzeros : ¬ ((Nat.toDigits 10 n).head? = some '0' ∧ (Nat.toDigits 10 n).length ≠ 1) := by
    rintro ⟨hhead, hlength⟩
    by_cases hn : 0 < n
    · exact head?_toDigits hn hhead
    · obtain rfl : n = 0 := by omega
      exact hlength rfl
  simp only [magnitude?, digits1?_toDigits n h, Option.bind_eq_bind, Option.bind_some]
  rw [if_neg hzeros]
  simp only [fraction?_of_ends h, exponent?_of_ends h, Option.bind_some, List.append_nil]

/-- A printed number is read back, if nothing follows that a number can go on with. -/
theorem readNumber_toDigits (n : Nat) {rest : List Char} (h : Ends rest) :
    readNumber (Nat.toDigits 10 n ++ rest) = some (.natural n, rest) := by
  have hminus : ∀ t, Nat.toDigits 10 n ++ rest ≠ '-' :: t := by
    intro t ht
    cases hd : Nat.toDigits 10 n with
    | nil => exact Nat.toDigits_ne_nil hd
    | cons d ds =>
      rw [hd] at ht
      have hdigit := isDigit_of_mem_toDigits d (hd ▸ List.mem_cons_self)
      rw [(List.cons.inj ht).1] at hdigit
      exact absurd hdigit (by decide)
  rw [readNumber.eq_2 _ hminus, magnitude?_toDigits n h]
  have hback : Nat.ofDigitChars 10 (Nat.toDigits 10 n) 0 = n :=
    Nat.ofDigitChars_toDigits (by decide) (by decide)
  simp only [Option.map_some, List.isEmpty_nil, if_true, hback]

end LoopScope.Json
