import LoopScope.Proofs.Json.Parser
import LoopScope.Proofs.Toml.Document
/-!
# Written lines are read back

A line is a bare key, an equals sign between blanks, and a value: a text without quotes, backslashes
and controls, a truth value, or a natural number of 63 bits. Lines with different keys, with a line
break between them and perhaps one behind the last, are the document that has their entries in
order.
-/
namespace LoopScope.Toml

/-- Nothing is left of a line. -/
def AtLineEnd (s : List Char) : Prop := ∀ c, s.head? = some c → c = '\n'

/-- A text is read as a value where the line ends behind it. Blanks before it would be lost. -/
structure ReadsBack (written : List Char) (value : Value) : Prop where
  head : ∃ c s, written = c :: s ∧ isBlank c = false
  read : ∀ (fuel room : Nat) {rest : List Char}, AtLineEnd rest →
    readValue (fuel + 1) room (written ++ rest) = some (value, rest)

variable {ds rest s : List Char}

theorem atLineEnd_nil : AtLineEnd [] := nofun

theorem atLineEnd_newline (s : List Char) : AtLineEnd ('\n' :: s) := by
  intro c hc
  cases hc
  rfl

theorem skipBlanks_cons {c : Char} (h : isBlank c = false) (s : List Char) :
    skipBlanks (c :: s) = c :: s :=
  List.dropWhile_cons_of_neg (by simp [h])

/-! ## Words -/

theorem readsBack_boolean (b : Bool) :
    ReadsBack (if b then ['t', 'r', 'u', 'e'] else ['f', 'a', 'l', 's', 'e']) (.boolean b) := by
  cases b with
  | false => exact ⟨⟨_, _, rfl, rfl⟩, fun _ _ _ _ => rfl⟩
  | true => exact ⟨⟨_, _, rfl, rfl⟩, fun _ _ _ _ => rfl⟩

/-- Characters that stand for themselves between quotes. -/
def Verbatim (cs : List Char) : Prop := ∀ c ∈ cs, isPlain c ∧ c ≠ '"' ∧ c ≠ '\\'

instance (cs : List Char) : Decidable (Verbatim cs) := List.decidableBAll _ cs

theorem readBasic_verbatim {cs : List Char} (h : Verbatim cs) (rest : List Char) :
    readBasic (cs ++ '"' :: rest) = some (cs, rest) := by
  induction cs with
  | nil => rfl
  | cons c cs ih =>
    obtain ⟨⟨hplain, hquote, hbackslash⟩, hrest⟩ := List.forall_mem_cons.mp h
    have hcons := readBasic.eq_6 c (cs ++ '"' :: rest) hquote
      (fun _ _ _ _ _ he => (hbackslash he).elim) (fun _ _ _ _ _ _ _ _ _ he => (hbackslash he).elim)
      fun _ _ he => (hbackslash he).elim
    rw [List.cons_append, hcons, hplain, bne_iff_ne.mpr hbackslash, ih hrest]
    rfl

theorem readString_verbatim {cs : List Char} (h : Verbatim cs) (hrest : AtLineEnd rest) :
    readString ('"' :: (cs ++ '"' :: rest)) = some (cs, rest) := by
  -- Two more quotes would open a string of several lines.
  have hone : ∀ after, cs ++ '"' :: rest ≠ '"' :: '"' :: after := by
    intro after heq
    cases cs with
    | nil =>
      have hhead := hrest '"' (congrArg List.head? (List.cons.inj heq).2)
      cases hhead
    | cons c cs => exact (h c List.mem_cons_self).2.1 (List.cons.inj heq).1
  rw [readString.eq_2 _ hone, readBasic_verbatim h]

theorem readsBack_string {s : String} (h : Verbatim s.toList) :
    ReadsBack ('"' :: (s.toList ++ ['"'])) (.string s) where
  head := ⟨_, _, rfl, rfl⟩
  read fuel room rest hrest := by
    have hread := readString_verbatim h hrest
    rw [List.cons_append, List.append_assoc, List.singleton_append, readValue, hread,
      Option.map_some, String.ofList_toList]

/-! ## Natural numbers -/

theorem digits?_digits (digit : Bool) (hds : ∀ c ∈ ds, c.isDigit = true)
    (hdigit : digit = true → ds ≠ []) (hrest : AtLineEnd rest) :
    digits? Char.isDigit digit (ds ++ rest) = some (ds, rest) := by
  induction ds generalizing digit with
  | nil =>
    cases digit with
    | true => exact (hdigit rfl rfl).elim
    | false =>
      cases rest with
      | nil => rfl
      | cons c rest =>
        obtain rfl := hrest c rfl
        rfl
  | cons c ds ih =>
    obtain ⟨hc, hds⟩ := List.forall_mem_cons.mp hds
    rw [List.cons_append, digits?, if_pos hc, ih false hds nofun]
    rfl

theorem decimal?_toDigits (n : Nat) (hrest : AtLineEnd rest) :
    decimal? (Nat.toDigits 10 n ++ rest) = some (Nat.toDigits 10 n, rest) := by
  by_cases hn : 0 < n
  · have hhead := Json.head?_toDigits hn
    rw [← digits?_digits true (@Json.isDigit_of_mem_toDigits n) (fun _ => Nat.toDigits_ne_nil) hrest]
    refine decimal?.eq_2 _ fun after hafter => hhead ?_
    obtain ⟨d, ds, hd, -⟩ := Json.exists_digit n
    rw [hd] at hafter ⊢
    exact congrArg some (List.cons.inj hafter).1
  · obtain rfl : n = 0 := by omega
    rfl

/-- Only digits are left of a number whose first digits are taken. -/
theorem digits_of_fixed? {count n : Nat} (hds : ∀ c ∈ ds, c.isDigit = true)
    (hrest : AtLineEnd rest) (h : fixed? count (ds ++ rest) = some (n, s)) :
    ∃ left, (∀ c ∈ left, c.isDigit = true) ∧ s = left ++ rest := by
  simp only [fixed?] at h
  split at h
  · rename_i htaken
    cases h
    obtain ⟨hlength, hall⟩ := htaken
    have hcount : count ≤ ds.length := by
      refine Nat.le_of_not_lt fun hlt => ?_
      obtain ⟨more, rfl⟩ := Nat.exists_eq_add_of_lt hlt
      cases rest with
      | nil =>
        rw [List.append_nil, List.length_take] at hlength
        omega
      | cons c rest =>
        obtain rfl := hrest c rfl
        rw [Nat.add_assoc, List.take_length_add_append, List.all_append, List.take_succ_cons,
          List.all_cons] at hall
        simp at hall
    exact ⟨ds.drop count, fun c hm => hds c (List.mem_of_mem_drop hm),
      List.drop_append_of_le_length hcount⟩
  · cases h

theorem skip?_digits {c : Char} (hc : c.isDigit = false) (hbreak : c ≠ '\n')
    (hds : ∀ c ∈ ds, c.isDigit = true) (hrest : AtLineEnd rest) : skip? c (ds ++ rest) = none := by
  cases ds with
  | nil =>
    cases rest with
    | nil => rfl
    | cons d rest =>
      obtain rfl := hrest d rfl
      exact if_neg (Ne.symm hbreak)
  | cons d ds => exact if_neg (Json.ne_of_class (hds d List.mem_cons_self) hc)

theorem readDateTime_digits (hds : ∀ c ∈ ds, c.isDigit = true) (hrest : AtLineEnd rest) :
    readDateTime (ds ++ rest) = none := by
  -- Digits come first in a date and in a time, and then a mark that is not there.
  have hdate : date? (ds ++ rest) = none := by
    rw [date?]
    cases h : fixed? 4 (ds ++ rest) with
    | none => rfl
    | some taken =>
      obtain ⟨left, hleft, hs⟩ := digits_of_fixed? hds hrest h
      have hmark : skip? '-' (left ++ rest) = none := skip?_digits rfl (by decide) hleft hrest
      simp only [Option.bind_eq_bind, Option.bind_some, hs, hmark, Option.bind_none]
  have htime : time? (ds ++ rest) = none := by
    rw [time?]
    cases h : fixed? 2 (ds ++ rest) with
    | none => rfl
    | some taken =>
      obtain ⟨left, hleft, hs⟩ := digits_of_fixed? hds hrest h
      have hmark : skip? ':' (left ++ rest) = none := skip?_digits rfl (by decide) hleft hrest
      simp only [Option.bind_eq_bind, Option.bind_some, hs, hmark, Option.bind_none]
  rw [readDateTime, hdate, htime]
  rfl

/-- The digits of a number do not start with a character that is no digit. -/
theorem toDigits_append_ne {n : Nat} {c : Char} (hc : c.isDigit = false) (rest s : List Char) :
    Nat.toDigits 10 n ++ rest ≠ c :: s := by
  obtain ⟨d, ds, hd, hdigit⟩ := Json.exists_digit n
  rw [hd]
  exact fun h => Json.ne_of_class hdigit hc (List.cons.inj h).1

theorem sign_toDigits (n : Nat) (rest : List Char) :
    sign (Nat.toDigits 10 n ++ rest) = (false, Nat.toDigits 10 n ++ rest) :=
  sign.eq_3 _ (toDigits_append_ne rfl rest) (toDigits_append_ne rfl rest)

theorem startsFloat_of_atLineEnd (hrest : AtLineEnd rest) : startsFloat rest = false := by
  cases rest with
  | nil => rfl
  | cons c rest =>
    obtain rfl := hrest c rfl
    rfl

theorem readFloat_toDigits (n : Nat) (hrest : AtLineEnd rest) :
    readFloat (Nat.toDigits 10 n ++ rest) = none := by
  rw [readFloat, sign_toDigits]
  dsimp only
  split
  · rename_i heq
    exact (toDigits_append_ne rfl rest _ heq).elim
  · rename_i heq
    exact (toDigits_append_ne rfl rest _ heq).elim
  · rw [decimal?_toDigits n hrest]
    simp only [Option.bind_eq_bind, Option.bind_some, startsFloat_of_atLineEnd hrest, Bool.not_false,
      if_true, Option.bind_none]

/-- The digits of a number do not start with the mark of another base. -/
theorem toDigits_append_ne_base {n : Nat} {c : Char} (hc : c ≠ '\n') (hrest : AtLineEnd rest)
    (s : List Char) : Nat.toDigits 10 n ++ rest ≠ '0' :: c :: s := by
  intro h
  by_cases hn : 0 < n
  · obtain ⟨d, ds, hd, -⟩ := Json.exists_digit n
    have hhead := Json.head?_toDigits hn
    rw [hd] at h hhead
    exact hhead (congrArg some (List.cons.inj h).1)
  · obtain rfl : n = 0 := by omega
    have hmark : rest = c :: s := (List.cons.inj h).2
    exact hc (hrest c (by rw [hmark, List.head?_cons]))

theorem readInteger_toDigits {n : Nat} (hn : n ≤ greatestInteger) (hrest : AtLineEnd rest) :
    readInteger (Nat.toDigits 10 n ++ rest) = some (.integer n, rest) := by
  have hread := readInteger.eq_4 (Nat.toDigits 10 n ++ rest)
    (toDigits_append_ne_base (by decide) hrest) (toDigits_append_ne_base (by decide) hrest)
    (toDigits_append_ne_base (by decide) hrest)
  have hback : Nat.ofDigitChars 10 (Nat.toDigits 10 n) 0 = n :=
    Nat.ofDigitChars_toDigits (by decide) (by decide)
  have hleast : leastInteger ≤ n := Int.le_trans (by decide) (Int.natCast_nonneg n)
  have hvalue : integerValue? n = some (.integer n) := if_pos ⟨hleast, hn⟩
  rw [hread, sign_toDigits]
  dsimp only
  rw [decimal?_toDigits n hrest]
  simp only [hback, Bool.false_eq_true, if_false, hvalue, Option.map_some]

theorem readsBack_natural {n : Nat} (hn : n ≤ greatestInteger) :
    ReadsBack (Nat.toDigits 10 n) (.integer n) where
  head := by
    obtain ⟨d, ds, hd, hdigit⟩ := Json.exists_digit n
    refine ⟨d, ds, hd, ?_⟩
    simp only [isBlank, Bool.or_eq_false_iff, beq_eq_false_iff_ne]
    exact ⟨Json.ne_of_class hdigit rfl, Json.ne_of_class hdigit rfl⟩
  read fuel room rest hrest := by
    have hread : readNumber (Nat.toDigits 10 n ++ rest) = some (.integer n, rest) := by
      rw [readNumber, readDateTime_digits Json.isDigit_of_mem_toDigits hrest,
        readFloat_toDigits n hrest, readInteger_toDigits hn hrest]
      rfl
    rw [← hread]
    exact readValue.eq_10 _ _ _ (toDigits_append_ne rfl rest) (toDigits_append_ne rfl rest)
      (toDigits_append_ne rfl rest) (toDigits_append_ne rfl rest) (toDigits_append_ne rfl rest)
      (toDigits_append_ne rfl rest)

/-! ## Lines -/

/-- A line: its key, its value, and how the value is written. -/
structure Line where
  key : String
  written : List Char
  value : Value

/-- A key that stands without quotes. -/
def IsBareKey (key : String) : Prop := key.toList ≠ [] ∧ ∀ c ∈ key.toList, isBare c = true

instance (key : String) : Decidable (IsBareKey key) :=
  @instDecidableAnd _ _ instDecidableNot (List.decidableBAll _ key.toList)

namespace Line

def chars (line : Line) : List Char := line.key.toList ++ ' ' :: '=' :: ' ' :: line.written

theorem length_chars_pos (line : Line) : 0 < line.chars.length := by
  rw [chars, List.length_append, List.length_cons]
  omega

structure Readable (line : Line) : Prop where
  key : IsBareKey line.key
  value : ReadsBack line.written line.value

end Line

theorem IsBareKey.exists_head {key : String} (h : IsBareKey key) :
    ∃ c cs, key.toList = c :: cs ∧ isBare c = true := by
  cases hkey : key.toList with
  | nil => exact (h.1 hkey).elim
  | cons c cs => exact ⟨c, cs, rfl, h.2 c (hkey ▸ List.mem_cons_self)⟩

theorem IsBareKey.append_ne {key : String} {d : Char} (h : IsBareKey key) (hd : isBare d = false)
    (rest s : List Char) : key.toList ++ rest ≠ d :: s := by
  obtain ⟨c, cs, hkey, hc⟩ := h.exists_head
  rw [hkey]
  exact fun heq => Json.ne_of_class hc hd (List.cons.inj heq).1

theorem skipBlanks_bareKey {key : String} (h : IsBareKey key) (rest : List Char) :
    skipBlanks (key.toList ++ rest) = key.toList ++ rest := by
  obtain ⟨c, cs, hkey, hc⟩ := h.exists_head
  rw [hkey]
  refine skipBlanks_cons ?_ _
  simp only [isBlank, Bool.or_eq_false_iff, beq_eq_false_iff_ne]
  exact ⟨Json.ne_of_class hc rfl, Json.ne_of_class hc rfl⟩

theorem readKey_bareKey {key : String} (h : IsBareKey key) (room : Nat) (s : List Char) :
    readKey (room + 1) (key.toList ++ ' ' :: '=' :: s) = some ([key], '=' :: s) := by
  have htake : (key.toList ++ ' ' :: '=' :: s).takeWhile isBare = key.toList := by
    rw [List.takeWhile_append_of_pos h.2, List.takeWhile_cons_of_neg (by decide), List.append_nil]
  have hsimple := readSimpleKey.eq_3 (key.toList ++ ' ' :: '=' :: s) (h.append_ne rfl _)
    (h.append_ne rfl _)
  rw [htake, if_neg (by simpa using h.1), List.drop_left, String.ofList_toList] at hsimple
  have hequals : skipBlanks (' ' :: '=' :: s) = '=' :: s := by
    rw [← skipBlanks_cons (c := '=') rfl s]
    rfl
  rw [readKey, skipBlanks_bareKey h, hsimple]
  simp only [hequals]
  rfl

theorem readKeyValue_line {line : Line} (h : line.Readable) (hrest : AtLineEnd rest) :
    readKeyValue (line.chars ++ rest) =
      (restOfLine? rest).map (([line.key], line.value), ·) := by
  obtain ⟨c, cs, hwritten, hc⟩ := h.value.head
  have hblank : skipBlanks (' ' :: (line.written ++ rest)) = line.written ++ rest := by
    rw [hwritten]
    exact skipBlanks_cons hc _
  have hkey := readKey_bareKey h.key 78 (' ' :: (line.written ++ rest))
  rw [readKeyValue, Line.chars, List.append_assoc, List.cons_append, List.cons_append,
    List.cons_append, nestingLimit, hkey]
  simp only [hblank, h.value.read _ _ hrest]

/-! ## Documents -/

theorem alter_of_not_mem {α : Type} {key : String} {f : Option α → Option α} {a : α}
    {entries : List (String × α)} (h : key ∉ entries.map Prod.fst) (ha : f none = some a) :
    alter key f entries = some (entries ++ [(key, a)]) := by
  induction entries with
  | nil => rw [alter, ha, Option.map_some, List.nil_append]
  | cons entry entries ih =>
    have hne : entry.1 ≠ key := fun he => h (he ▸ List.mem_cons_self)
    rw [alter, if_neg hne, ih (List.not_mem_of_not_mem_cons h)]
    rfl

theorem addLine_of_not_mem {key : String} {value : Value} {root : Entries}
    (h : key ∉ root.map Prod.fst) :
    addLine [] [key] value root = some (root ++ [(key, .leaf value)]) :=
  alter_of_not_mem h rfl

theorem readLines_line {fuel : Nat} {root : Entries} {line : Line} (h : line.Readable)
    (hrest : AtLineEnd rest) (hnew : line.key ∉ root.map Prod.fst) :
    readLines (fuel + 1) [] root (line.chars ++ rest) =
      (restOfLine? rest).bind (readLines fuel [] (root ++ [(line.key, .leaf line.value)])) := by
  have hblanks : skipBlanks (line.chars ++ rest) = line.chars ++ rest := by
    rw [Line.chars, List.append_assoc, skipBlanks_bareKey h.key]
  obtain ⟨c, cs, hchars, hc⟩ : ∃ c cs, line.chars ++ rest = c :: cs ∧ isBare c = true := by
    obtain ⟨c, cs, hkey, hc⟩ := h.key.exists_head
    exact ⟨c, _, by rw [Line.chars, hkey]; rfl, hc⟩
  rw [readLines, hblanks]
  split
  case h_7 =>
    rw [readKeyValue_line h hrest]
    cases restOfLine? rest with
    | none => rfl
    | some after =>
      simp only [Option.map_some, addLine_of_not_mem hnew, Option.bind_eq_bind, Option.bind_some]
  case h_1 heq =>
    rw [hchars] at heq
    cases heq
  all_goals
    rename_i heq
    rw [hchars] at heq
    exact (Json.ne_of_class hc rfl (List.cons.inj heq).1).elim

/-- The text of lines with a line break between them, and with what stands behind the last. -/
def joined (lines : List Line) (ending : List Char) : List Char :=
  ['\n'].intercalate (lines.map Line.chars) ++ ending

/-- What may stand behind the last line. -/
def IsEnding (ending : List Char) : Prop := ending = [] ∨ ending = ['\n']

variable {ending : List Char} {fuel : Nat} {root : Entries}

/-- Behind the first line stands its end, and then the text of the other lines. -/
theorem joined_cons (line : Line) (lines : List Line) (hending : IsEnding ending) :
    ∃ rest ending', joined (line :: lines) ending = line.chars ++ rest ∧ AtLineEnd rest ∧
      IsEnding ending' ∧ restOfLine? rest = some (joined lines ending') ∧
      (joined lines ending').length ≤ rest.length := by
  cases lines with
  | nil =>
    refine ⟨ending, [], ?_, ?_, .inl rfl, ?_, Nat.zero_le _⟩
    · simp [joined]
    · rcases hending with rfl | rfl
      · exact atLineEnd_nil
      · exact atLineEnd_newline []
    · rcases hending with rfl | rfl <;> rfl
  | cons next lines =>
    refine ⟨'\n' :: joined (next :: lines) ending, ending, ?_, atLineEnd_newline _, hending, rfl,
      Nat.le_succ _⟩
    simp [joined, List.intercalate_cons_cons]

theorem readLines_ending (h : IsEnding ending) (hfuel : ending.length < fuel) (root : Entries) :
    readLines fuel [] root ending = some root := by
  rcases h with rfl | rfl
  · obtain ⟨fuel, rfl⟩ := Nat.exists_eq_add_of_le' (show 1 ≤ fuel from hfuel)
    rfl
  · obtain ⟨fuel, rfl⟩ := Nat.exists_eq_add_of_le' (show 2 ≤ fuel from hfuel)
    rfl

/-- Lines with different keys add their entries in order. -/
theorem readLines_joined {lines : List Line} (hlines : ∀ line ∈ lines, line.Readable)
    (hending : IsEnding ending) (hfuel : (joined lines ending).length < fuel)
    (hkeys : (root.map Prod.fst ++ lines.map Line.key).Nodup) :
    readLines fuel [] root (joined lines ending) =
      some (root ++ lines.map fun line => (line.key, .leaf line.value)) := by
  induction lines generalizing ending fuel root with
  | nil =>
    rw [List.map_nil, List.append_nil]
    exact readLines_ending hending hfuel root
  | cons line lines ih =>
    obtain ⟨hline, hlines⟩ := List.forall_mem_cons.mp hlines
    obtain ⟨rest, ending', hjoined, hrest, hending', hafter, hlength⟩ :=
      joined_cons line lines hending
    have hnew : line.key ∉ root.map Prod.fst := fun hm =>
      (List.nodup_append.mp hkeys).2.2 _ hm _ List.mem_cons_self rfl
    rw [hjoined] at hfuel ⊢
    cases fuel with
    | zero => cases hfuel
    | succ fuel =>
      have hshorter : (joined lines ending').length < fuel := by
        have hpos := line.length_chars_pos
        rw [List.length_append] at hfuel
        omega
      have hread : readLines fuel [] (root ++ [(line.key, .leaf line.value)])
          (joined lines ending') = some (root ++ [(line.key, .leaf line.value)] ++
            lines.map fun line => (line.key, .leaf line.value)) :=
        ih hlines hending' hshorter (by simpa using hkeys)
      rw [readLines_line hline hrest hnew, hafter, Option.bind_some, hread, List.append_assoc]
      rfl

/-- A text of lines with different keys is the document of their entries. -/
theorem parse?_joined {lines : List Line} (hlines : ∀ line ∈ lines, line.Readable)
    (hending : IsEnding ending) (hkeys : (lines.map Line.key).Nodup) {text : String}
    (htext : text.toList = joined lines ending) :
    parse? text = some (lines.map fun line => (line.key, line.value)) := by
  have hmark : skipMark (joined lines ending) = joined lines ending := by
    refine skipMark.eq_2 _ fun s hs => ?_
    cases lines with
    | nil => rcases hending with rfl | rfl <;> cases hs
    | cons line lines =>
      obtain ⟨rest, -, hjoined, -⟩ := joined_cons line lines hending
      obtain ⟨hline, -⟩ := List.forall_mem_cons.mp hlines
      rw [hjoined, Line.chars, List.append_assoc] at hs
      exact hline.key.append_ne (by decide) _ _ hs
  have hread : readLines ((joined lines ending).length + 1) [] [] (joined lines ending) =
      some (lines.map fun line => (line.key, .leaf line.value)) :=
    readLines_joined hlines hending (Nat.lt_succ_self _) hkeys
  rw [parse?, htext, hmark, hread, Option.map_some, nodeValues_eq_map, List.map_map]
  rfl

end LoopScope.Toml
