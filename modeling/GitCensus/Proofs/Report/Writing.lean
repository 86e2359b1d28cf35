import Mathlib.Data.List.Forall2
import GitCensus.Proofs.Text.Hexadecimal
import GitCensus.Report.Maxima
/-!
# What reports say

The report of the largest values says one thing for each of them: its statistic, its value
and its holder.  In JSON the texts stand in quotes, where every character is written in one
of a few ways, so a quoted text reads back as one text only.
-/

namespace GitCensus

namespace Json

def figures : List Char := "0123456789abcdef".toList

/-- A number of sixteen bits in four digits. -/
inductive Unit (n : Nat) : List Char → Prop
  | digits (a b c d : Fin 16) (hn : n = 0x1000 * a + 0x100 * b + 0x10 * c + d) :
      Unit n ['\\', 'u', figures[a], figures[b], figures[c], figures[d]]

/-- The letters that stand behind a backslash, and the characters they mean. -/
def letters : List (Char × Char) :=
  [('\x22', '\x22'), ('\\', '\\'), ('n', '\n'), ('r', '\r'), ('t', '\t'), ('b', '\x08'),
    ('f', '\x0c')]

/-- A character by number; one beyond sixteen bits by the two halves of its excess. -/
inductive ByNumber (c : Char) : List Char → Prop
  | unit {written : List Char} (hunit : Unit c.toNat written) : ByNumber c written
  | pair {high low : Nat} {first second : List Char} (hhigh : high < 0x400) (hlow : low < 0x400)
      (hc : c.toNat = 0x10000 + 0x400 * high + low) (hfirst : Unit (0xd800 + high) first)
      (hsecond : Unit (0xdc00 + low) second) : ByNumber c (first ++ second)

/-- The ways of writing a character between quotes. -/
inductive Writes (c : Char) : List Char → Prop
  | plain (hlow : ' ' ≤ c) (hhigh : c ≤ '~') (hquote : c ≠ '\x22') (hslash : c ≠ '\\') :
      Writes c [c]
  | letter {l : Char} (hletter : (l, c) ∈ letters) : Writes c ['\\', l]
  | byNumber {written : List Char} (hnumber : ByNumber c written) : Writes c written

def Quotes (s written : String) : Prop :=
  ∃ parts, List.Forall₂ Writes s.toList parts ∧
    written.toList = '\x22' :: parts.flatten ++ ['\x22']

variable {c c' : Char} {cs cs' one one' rest rest' : List Char} {n n' : Nat}

/-! ## Writing -/

theorem digit_eq_figures : ∀ k : Fin 16, Text.Hex.digit k = figures[k] := by decide

theorem unit_unit (hn : n < 0x10000) : Unit n (unit n) := by
  let digit (m : Nat) : Fin 16 := ⟨m % 16, Nat.mod_lt m (by decide)⟩
  have hunit : unit n = ['\\', 'u', figures[digit (n / 0x1000)], figures[digit (n / 0x100)],
      figures[digit (n / 0x10)], figures[digit (n / 1)]] := by
    simp only [← digit_eq_figures]
    rfl
  rw [hunit]
  refine .digits _ _ _ _ ?_
  simp only [digit]
  omega

theorem byNumber_byNumber (c : Char) : ByNumber c (byNumber c.toNat) := by
  have hmax : c.toNat < 0x110000 := by
    have hvalid := c.valid
    simp only [UInt32.isValidChar, Nat.isValidChar] at hvalid
    change c.val.toNat < _
    omega
  unfold byNumber
  split
  · next hlt => exact .unit (unit_unit hlt)
  · next hge =>
      have hexcess : (c.toNat - 0x10000) / 0x400 < 0x400 := by omega
      exact .pair hexcess (Nat.mod_lt _ (by decide)) (by omega) (unit_unit (by omega))
        (unit_unit (by omega))

theorem writes_escape (c : Char) : Writes c (escape c) := by
  unfold escape
  split
  case h_8 hquote hslash _ _ _ _ _ =>
    split
    · next hplain =>
        simp only [Bool.and_eq_true, decide_eq_true_eq] at hplain
        exact .plain hplain.1 hplain.2 hquote hslash
    · exact .byNumber (byNumber_byNumber c)
  all_goals exact .letter (by decide)

theorem quotes_text (s : String) : Quotes s (text s) := by
  refine ⟨s.toList.map escape, ?_, ?_⟩
  · exact List.forall₂_map_right_iff.mpr (List.forall₂_same.mpr fun c _ => writes_escape c)
  · rw [text, String.toList_ofList, List.flatMap_def]

/-! ## Reading back -/

theorem Unit.split (h : Unit n one) (h' : Unit n' one') (heq : one ++ rest = one' ++ rest') :
    n = n' ∧ rest = rest' := by
  have hinj : ∀ k k' : Fin 16, figures[k] = figures[k'] → k = k' := by decide
  cases h with
  | digits a b c d hn =>
      cases h' with
      | digits a' b' c' d' hn' =>
          simp only [List.cons_append, List.nil_append, List.cons.injEq, true_and] at heq
          obtain ⟨ha, hb, hc, hd, rfl⟩ := heq
          rw [hn, hn', hinj a a' ha, hinj b b' hb, hinj c c' hc, hinj d d' hd]
          exact ⟨rfl, rfl⟩

/-- A character is not a half of a pair. -/
theorem not_unit_of_pair {high : Nat} (hhigh : high < 0x400) : c.toNat ≠ 0xd800 + high := by
  have hvalid := c.valid
  simp only [UInt32.isValidChar, Nat.isValidChar] at hvalid
  change c.val.toNat ≠ _
  omega

theorem ByNumber.split (h : ByNumber c one) (h' : ByNumber c' one')
    (heq : one ++ rest = one' ++ rest') : c = c' ∧ rest = rest' := by
  cases h with
  | unit hunit =>
      cases h' with
      | unit hunit' =>
          obtain ⟨hnumber, hrest⟩ := hunit.split hunit' heq
          exact ⟨Char.toNat_inj.mp hnumber, hrest⟩
      | pair hhigh _ _ hfirst _ =>
          rw [List.append_assoc] at heq
          exact absurd (hunit.split hfirst heq).1 (not_unit_of_pair hhigh)
  | pair hhigh _ hc hfirst hsecond =>
      rw [List.append_assoc] at heq
      cases h' with
      | unit hunit => exact absurd (hfirst.split hunit heq).1.symm (not_unit_of_pair hhigh)
      | pair _ _ hc' hfirst' hsecond' =>
          rw [List.append_assoc] at heq
          obtain ⟨hhighs, heq⟩ := hfirst.split hfirst' heq
          obtain ⟨hlows, hrest⟩ := hsecond.split hsecond' heq
          exact ⟨Char.toNat_inj.mp (by omega), hrest⟩

theorem ByNumber.exists_tail (h : ByNumber c one) : ∃ tail, one = '\\' :: 'u' :: tail := by
  cases h with
  | unit hunit =>
      cases hunit
      exact ⟨_, rfl⟩
  | pair _ _ _ hfirst _ =>
      cases hfirst
      exact ⟨_, rfl⟩

theorem notMem_letters_u (c : Char) : ('u', c) ∉ letters := by simp [letters]

theorem letters_unique {l : Char} (h : (l, c) ∈ letters) (h' : (l, c') ∈ letters) : c = c' := by
  have hall : letters.all fun p => letters.all fun q => p.1 = q.1 → p.2 = q.2 := by decide
  have hboth := List.all_eq_true.mp (List.all_eq_true.mp hall _ h) _ h'
  simpa using hboth

/-- How a character is written shows where it ends and which character it is. -/
theorem Writes.split (h : Writes c one) (h' : Writes c' one') (heq : one ++ rest = one' ++ rest') :
    c = c' ∧ rest = rest' := by
  cases h with
  | plain _ _ _ hslash =>
      cases h' with
      | plain => simpa using heq
      | letter => simp [hslash] at heq
      | byNumber hnumber =>
          obtain ⟨tail, rfl⟩ := hnumber.exists_tail
          simp [hslash] at heq
  | @letter l hletter =>
      cases h' with
      | plain _ _ _ hslash => simp [hslash.symm] at heq
      | letter hletter' =>
          simp only [List.cons_append, List.nil_append, List.cons.injEq, true_and] at heq
          obtain ⟨rfl, hrest⟩ := heq
          exact ⟨letters_unique hletter hletter', hrest⟩
      | byNumber hnumber =>
          obtain ⟨tail, rfl⟩ := hnumber.exists_tail
          simp only [List.cons_append, List.nil_append, List.cons.injEq, true_and] at heq
          exact absurd (heq.1 ▸ hletter) (notMem_letters_u c)
  | byNumber hnumber =>
      obtain ⟨tail, htail⟩ := hnumber.exists_tail
      cases h' with
      | plain _ _ _ hslash => simp [htail, hslash.symm] at heq
      | letter hletter =>
          simp only [htail, List.cons_append, List.nil_append, List.cons.injEq, true_and] at heq
          exact absurd (heq.1 ▸ hletter) (notMem_letters_u c')
      | byNumber hnumber' => exact hnumber.split hnumber' heq

theorem eq_of_flatten_eq {parts parts' : List (List Char)} (h : List.Forall₂ Writes cs parts)
    (h' : List.Forall₂ Writes cs' parts') (heq : parts.flatten = parts'.flatten) : cs = cs' := by
  have hne {c : Char} {one : List Char} (h : Writes c one) : one ≠ [] := by
    rintro rfl
    cases h with
    | byNumber hnumber => simpa using hnumber.exists_tail
  induction h generalizing cs' parts' with
  | nil =>
      cases h' with
      | nil => rfl
      | cons hone _ => simp [hne hone] at heq
  | cons hone _ ih =>
      cases h' with
      | nil => simp [hne hone] at heq
      | cons hone' hrest =>
          obtain ⟨rfl, heq⟩ := hone.split hone' heq
          rw [ih hrest heq]

/-- A quoted text is no other text in quotes. -/
theorem Quotes.unique {s s' written : String} (h : Quotes s written) (h' : Quotes s' written) :
    s = s' := by
  obtain ⟨parts, hparts, hwritten⟩ := h
  obtain ⟨parts', hparts', hwritten'⟩ := h'
  rw [hwritten, List.cons_append, List.cons_append, List.cons.injEq,
    List.append_cancel_right_eq] at hwritten'
  exact String.toList_inj.mp (eq_of_flatten_eq hparts hparts' hwritten'.2)

end Json

namespace Report

/-! ## Largest values -/

def blanks (width : Nat) (s : String) : String := String.ofList (List.replicate (width - s.length) ' ')

/-- The member of a JSON object that states a maximum. -/
def Member (m : Maximum) (member : String) : Prop :=
  ∃ key name, Json.Quotes m.statistic key ∧ Json.Quotes m.holder name ∧
    member = key ++ ": \x7b\"value\": " ++ toString m.value ++ ", \"ref\": " ++ name ++ "\x7d"

/-- The report states the given maxima in order, each with its statistic, value and holder,
and nothing else. -/
def States (format : Format) (ms : Maxima) (report : String) : Prop :=
  match format with
  | .text => report = String.join (ms.map fun m =>
      m.statistic ++ blanks 18 m.statistic ++ " " ++
        blanks 12 (toString m.value) ++ toString m.value ++ "  " ++ m.holder ++ "\n")
  | .json | .jsonLines => ∃ members, List.Forall₂ Member ms members ∧
      report = "\x7b" ++ ", ".intercalate members ++ "\x7d\n"

def empty : Format → String
  | .text => ""
  | .json | .jsonLines => "\x7b\x7d\n"

variable {format : Format} {ms : Maxima} {report : String}

theorem lines_singleton (line : String) : lines [line] = line ++ "\n" := by
  simp [lines, String.join]

theorem lines_list (items : List String) :
    lines [Json.list items] = "[" ++ ", ".intercalate items ++ "]\n" := by
  rw [lines_singleton, Json.list, String.append_assoc]
  rfl

theorem lines_object (fields : List (String × String)) : lines [Json.object fields] =
    "\x7b" ++ ", ".intercalate (fields.map fun field => Json.text field.1 ++ ": " ++ field.2) ++
      "\x7d\n" := by
  rw [lines_singleton, Json.object, String.append_assoc]
  rfl

theorem member_json (m : Maximum) : Member m (Json.text m.json.1 ++ ": " ++ m.json.2) := by
  refine ⟨_, _, Json.quotes_text m.statistic, Json.quotes_text m.holder, ?_⟩
  have hvalue : Json.text "value" = "\"value\"" := by decide +kernel
  have href : Json.text "ref" = "\"ref\"" := by decide +kernel
  simp only [Maximum.json, Json.object, Json.number, List.map_cons, List.map_nil,
    String.intercalate_cons_cons, String.intercalate_singleton, hvalue, href]
  simp [← String.toList_inj]

theorem line_text (m : Maximum) : m.text ++ "\n" =
    m.statistic ++ blanks 18 m.statistic ++ " " ++
      blanks 12 (toString m.value) ++ toString m.value ++ "  " ++ m.holder ++ "\n" := by
  simp only [Maximum.text, Text.Decimal.padRight, Text.Decimal.padLeft, blanks,
    String.append_assoc]

theorem states_maxima (format : Format) (ms : Maxima) : States format ms (maxima format ms) := by
  have hobject : ∃ members, List.Forall₂ Member ms members ∧
      lines [Json.object (ms.map Maximum.json)] =
        "\x7b" ++ ", ".intercalate members ++ "\x7d\n" := by
    refine ⟨ms.map fun m => Json.text m.json.1 ++ ": " ++ m.json.2, ?_, ?_⟩
    · exact List.forall₂_map_right_iff.mpr (List.forall₂_same.mpr fun m _ => member_json m)
    · rw [lines_object, List.map_map]
      rfl
  cases format with
  | text => simp only [States, maxima, lines, List.map_map, Function.comp_def, line_text]
  | json => exact hobject
  | jsonLines => exact hobject

theorem length_le_intercalate (separator first : String) (rest : List String) :
    first.length ≤ (separator.intercalate (first :: rest)).length := by
  cases rest with
  | nil => simp
  | cons second rest =>
      rw [String.intercalate_cons_cons]
      simp only [String.length_append]
      omega

/-- A report is empty if it states nothing, and only then. -/
theorem States.eq_empty_iff (h : States format ms report) : report = empty format ↔ ms = [] := by
  have hobject (h : ∃ members, List.Forall₂ Member ms members ∧
      report = "\x7b" ++ ", ".intercalate members ++ "\x7d\n") :
      report = "\x7b\x7d\n" ↔ ms = [] := by
    obtain ⟨members, hmembers, rfl⟩ := h
    cases hmembers with
    | nil => simp
    | @cons m member ms members hmember _ =>
        obtain ⟨key, name, -, -, rfl⟩ := hmember
        refine iff_of_false (fun hempty => ?_) (List.cons_ne_nil m ms)
        -- one member alone is longer than the empty report
        have hmembers := length_le_intercalate ", " (key ++ ": \x7b\"value\": " ++
          toString m.value ++ ", \"ref\": " ++ name ++ "\x7d") members
        have hlength := congrArg String.length hempty
        have hvalue : ": \x7b\"value\": ".length = 12 := by rfl
        have hboth : "\x7b\x7d\n".length = 3 := by rfl
        simp only [String.length_append] at hmembers hlength
        omega
  cases format with
  | text =>
      obtain rfl := h
      cases ms with
      | nil => simp [empty, String.join]
      | cons m ms =>
        refine iff_of_false (fun hempty => ?_) (List.cons_ne_nil m ms)
        simp [empty] at hempty
  | json => exact hobject h
  | jsonLines => exact hobject h

/-! ## Sizes -/

/-- The report on many rows is made of the reports on the single rows. -/
def Gathers (format : Format) (parts : List String) (whole : String) : Prop :=
  match format with
  | .text | .jsonLines => whole = String.join parts
  | .json => ∃ records : List String,
      parts = records.map (fun record => "[" ++ record ++ "]\n") ∧
      whole = "[" ++ ", ".intercalate records ++ "]\n"

theorem gathers_sizes (format : Format) (rows : List Row) :
    Gathers format (rows.map fun row => sizes format [row]) (sizes format rows) := by
  cases format with
  | text => simp [Gathers, sizes, lines, Function.comp_def]
  | json =>
      refine ⟨rows.map Row.json, ?_, ?_⟩
      · simp [sizes, lines_list]
      · exact lines_list _
  | jsonLines => simp [Gathers, sizes, lines, Function.comp_def]

end Report

end GitCensus
