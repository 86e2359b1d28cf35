import GitCensus.Channel.Reply
import GitCensus.Proofs.Text.Digits
import GitCensus.Proofs.Text.Separators
/-!
# What a reply line says

A reply line is read as a missing object or as a kind and a size only if it was written
that way, and what was written that way is read so.  Every other line breaks the
format; only a size of too many digits is neither.
-/

namespace GitCensus

namespace ObjectKind

variable {kind : ObjectKind}

def proper : List ObjectKind := [.blob, .tree, .commit, .tag]

theorem ofName?_eq_some_iff {s : String} : ofName? s = some kind ↔ kind ∈ proper ∧ kind.name = s := by
  constructor
  · intro h
    have hname := name_ofName s
    rw [ofName, h] at hname
    refine ⟨?_, hname⟩
    unfold ofName? at h
    split_ifs at h
    all_goals
      obtain rfl := Option.some.inj h
      decide
  · rintro ⟨hkind, rfl⟩
    have hall : ∀ kind ∈ proper, ofName? kind.name = some kind := by decide
    exact hall kind hkind

theorem eq_of_name_eq {kind' : ObjectKind} (h : kind ∈ proper) (h' : kind' ∈ proper)
    (hname : kind.name = kind'.name) : kind = kind' := by
  have hfound := ofName?_eq_some_iff.mpr ⟨h, rfl⟩
  rw [hname, ofName?_eq_some_iff.mpr ⟨h', rfl⟩] at hfound
  exact (Option.some.inj hfound).symm

theorem toNat_lt_of_mem_name (h : kind ∈ proper) {c : Char} (hc : c ∈ kind.name.toList) :
    c.toNat < 0x80 := by
  have hall : (proper.all fun kind => kind.name.toList.all fun c => c.toNat < 0x80) = true := rfl
  have hkind := List.all_eq_true.mp hall kind h
  exact of_decide_eq_true (List.all_eq_true.mp hkind c hc)

theorem ascii_ofAscii_name (h : kind ∈ proper) : Text.ascii (Bytes.ofAscii kind.name) = kind.name :=
  Text.ascii_ofAscii fun _ hc => toNat_lt_of_mem_name h hc

theorem eq_ofAscii_name {word : Bytes} (h : kind ∈ proper) (hword : Text.ascii word = kind.name) :
    word = Bytes.ofAscii kind.name := by
  have hascii : ∀ c ∈ (Text.ascii word).toList, c.toNat < 0x80 := by
    intro c hc
    rw [hword] at hc
    exact toNat_lt_of_mem_name h hc
  rw [← hword, Text.ofAscii_ascii hascii]

theorem space_notMem_name (h : kind ∈ proper) : Bytes.space ∉ Bytes.ofAscii kind.name := by
  have hall : ∀ kind ∈ proper, Bytes.space ∉ Bytes.ofAscii kind.name := by decide
  exact hall kind h

theorem lineFeed_notMem_name (h : kind ∈ proper) : Bytes.lineFeed ∉ Bytes.ofAscii kind.name := by
  have hall : ∀ kind ∈ proper, Bytes.lineFeed ∉ Bytes.ofAscii kind.name := by decide
  exact hall kind h

end ObjectKind

namespace Channel.Reply

open Text (Decimal.digitLimit)
open ObjectKind (proper)

variable {id : ObjectId} {kind : ObjectKind} {digits line : Bytes}

/-- The line that states a kind and a size of the given digits. -/
def statement (id : ObjectId) (kind : ObjectKind) (digits : Bytes) : Bytes :=
  id.hexBytes ++ Bytes.space :: Bytes.ofAscii kind.name ++ Bytes.space :: digits

theorem render_header {size : Nat} :
    render id (.header kind size) = statement id kind (Text.Decimal.digits size) := rfl

theorem notMem_of_isDigits {mark : UInt8} (h : Bytes.isDigits digits = true)
    (hmark : Bytes.isDigit mark = false) : mark ∉ digits := by
  intro hmem
  rw [Bytes.isDigits, Bool.and_eq_true, List.all_eq_true] at h
  have hdigit := h.2 mark hmem
  rw [hmark] at hdigit
  cases hdigit

theorem lineFeed_notMem_statement (hkind : kind ∈ proper) (hdigits : Bytes.isDigits digits = true) :
    Bytes.lineFeed ∉ statement id kind digits := by
  have hid := id.lineFeed_notMem_hexBytes
  have hname := ObjectKind.lineFeed_notMem_name hkind
  have hsize : Bytes.lineFeed ∉ digits := notMem_of_isDigits hdigits rfl
  have hspace : Bytes.lineFeed ≠ Bytes.space := by decide
  simp [statement, hid, hname, hsize, hspace]

theorem lineFeed_notMem_missing : Bytes.lineFeed ∉ render id .missing := by
  have hid := id.lineFeed_notMem_hexBytes
  have hword : Bytes.lineFeed ∉ missingWord := by decide
  have hspace : Bytes.lineFeed ≠ Bytes.space := by decide
  simp [render, hid, hword, hspace]

theorem parse_missing : parse id (render id .missing) = .ok .missing := by
  have hwords : Bytes.splitOn Bytes.space missingWord = [missingWord] := by decide
  have hsplit : Bytes.splitOn Bytes.space (render id .missing) = [id.hexBytes, missingWord] := by
    rw [render, Bytes.splitOn_append id.space_notMem_hexBytes, hwords]
  unfold parse
  simp [hsplit]

theorem splitOn_statement (hkind : kind ∈ proper) (hdigits : Bytes.isDigits digits = true) :
    Bytes.splitOn Bytes.space (statement id kind digits) =
      [id.hexBytes, Bytes.ofAscii kind.name, digits] := by
  rw [statement, List.append_assoc, List.cons_append,
    Bytes.splitOn_append id.space_notMem_hexBytes,
    Bytes.splitOn_append (ObjectKind.space_notMem_name hkind),
    Bytes.splitOn_of_notMem (notMem_of_isDigits hdigits rfl)]

theorem parse_statement (hkind : kind ∈ proper) (hdigits : Bytes.isDigits digits = true) :
    parse id (statement id kind digits) = (readSize id digits).map (.header kind) := by
  have hname : ObjectKind.ofName? (Text.ascii (Bytes.ofAscii kind.name)) = some kind :=
    ObjectKind.ofName?_eq_some_iff.mpr ⟨hkind, (ObjectKind.ascii_ofAscii_name hkind).symm⟩
  unfold parse
  simp [splitOn_statement hkind hdigits, hname]

theorem readSize_of_le (hdigits : Bytes.isDigits digits = true)
    (hlength : digits.length ≤ Text.Decimal.digitLimit) :
    readSize id digits = .ok (Bytes.value 10 digits) := by
  simp [readSize, Text.Decimal.read?, hdigits, hlength]

theorem readSize_of_lt (hdigits : Bytes.isDigits digits = true)
    (hlength : Text.Decimal.digitLimit < digits.length) :
    readSize id digits = .error (.digitsToRead digits.length) := by
  simp [readSize, Text.Decimal.read?, hdigits, Nat.not_le.mpr hlength]

theorem value_of_readSize {size : Nat} (h : readSize id digits = .ok size) :
    Bytes.value 10 digits = size := by
  cases hdigits : Bytes.isDigits digits with
  | false => simp [readSize, hdigits] at h
  | true =>
      rcases Nat.lt_or_ge Text.Decimal.digitLimit digits.length with hlength | hlength
      · rw [readSize_of_lt hdigits hlength] at h
        cases h
      · rw [readSize_of_le hdigits hlength] at h
        exact Except.ok.inj h

theorem readSize_digits {size : Nat} (hsize : size < 10 ^ Text.Decimal.digitLimit) :
    readSize id (Text.Decimal.digits size) = .ok size := by
  have hlength := Text.Decimal.length_digits_le (by decide) hsize
  rw [readSize_of_le (Text.Decimal.isDigits_digits size) hlength, Text.Decimal.value_digits]

/-- The replies begin with a line that states a kind and a size of the given digits. -/
structure Leads (id : ObjectId) (kind : ObjectKind) (digits replies : Bytes) : Prop where
  isProper : kind ∈ proper
  isDigits : Bytes.isDigits digits = true
  line : statement id kind digits ++ [Bytes.lineFeed] <+: replies

/-- Replies begin with at most one statement. -/
theorem Leads.digits_eq {kind' : ObjectKind} {digits' replies : Bytes}
    (h : Leads id kind digits replies) (h' : Leads id kind' digits' replies) : digits = digits' := by
  obtain ⟨rest, hrest⟩ := h.line
  obtain ⟨rest', hrest'⟩ := h'.line
  rw [← hrest', List.append_assoc, List.append_assoc] at hrest
  obtain ⟨hline, -⟩ := Bytes.append_inj_of_notMem (lineFeed_notMem_statement h.isProper h.isDigits)
    (lineFeed_notMem_statement h'.isProper h'.isDigits) hrest
  have hwords := congrArg (Bytes.splitOn Bytes.space) hline
  rw [splitOn_statement h.isProper h.isDigits, splitOn_statement h'.isProper h'.isDigits] at hwords
  simp only [List.cons.injEq] at hwords
  exact hwords.2.2.1

/-- The ways that a reply line can be read. -/
inductive LineEnd (id : ObjectId) (line : Bytes) : Except Fault Reply → Prop
  | missing (hline : line = render id .missing) : LineEnd id line (.ok .missing)
  | header {kind : ObjectKind} {digits : Bytes} (hkind : kind ∈ proper)
      (hdigits : Bytes.isDigits digits = true) (hline : line = statement id kind digits)
      (hlength : digits.length ≤ Text.Decimal.digitLimit) :
      LineEnd id line (.ok (.header kind (Bytes.value 10 digits)))
  | endless {kind : ObjectKind} {digits : Bytes} (hkind : kind ∈ proper)
      (hdigits : Bytes.isDigits digits = true) (hline : line = statement id kind digits)
      (hlength : Text.Decimal.digitLimit < digits.length) :
      LineEnd id line (.error (.digitsToRead digits.length))
  | broken (cause : ProtocolFault) : LineEnd id line (.error (.protocol cause))

theorem lineEnd_of_words {kind : Bytes} (hline : line = id.hexBytes ++ Bytes.space :: kind ++
    Bytes.space :: digits) :
    LineEnd id line (match ObjectKind.ofName? (Text.ascii kind) with
      | none => .error (.protocol (.unknownReplyKind (Text.ascii kind) id))
      | some kind => (readSize id digits).map (.header kind)) := by
  cases hname : ObjectKind.ofName? (Text.ascii kind) with
  | none => exact .broken _
  | some found =>
      obtain ⟨hkind, hfound⟩ := ObjectKind.ofName?_eq_some_iff.mp hname
      rw [ObjectKind.eq_ofAscii_name hkind hfound.symm] at hline
      cases hdigits : Bytes.isDigits digits with
      | false =>
          have hread : readSize id digits = .error (.protocol (.invalidReplySize digits id)) := by
            simp [readSize, hdigits]
          dsimp only
          rw [hread]
          exact .broken _
      | true =>
          dsimp only
          rcases Nat.lt_or_ge Text.Decimal.digitLimit digits.length with hlength | hlength
          · rw [readSize_of_lt hdigits hlength]
            exact .endless hkind hdigits hline hlength
          · rw [readSize_of_le hdigits hlength]
            exact .header hkind hdigits hline hlength

theorem lineEnd (id : ObjectId) (line : Bytes) : LineEnd id line (parse id line) := by
  unfold parse
  split
  · exact .broken _
  next name words hsplit =>
    split
    · exact .broken _
    next hname =>
      obtain rfl : name = id.hexBytes := not_not.mp hname
      split
      next hmissing =>
        rw [hmissing, Bytes.splitOn_eq_cons_cons_iff] at hsplit
        obtain ⟨-, rest, rfl, hrest⟩ := hsplit
        obtain ⟨-, rfl⟩ := Bytes.splitOn_eq_singleton_iff.mp hrest
        exact .missing rfl
      next =>
        split
        next kind size =>
          obtain ⟨-, rest, rfl, hrest⟩ := Bytes.splitOn_eq_cons_cons_iff.mp hsplit
          obtain ⟨-, rest', rfl, hrest'⟩ := Bytes.splitOn_eq_cons_cons_iff.mp hrest
          obtain ⟨-, rfl⟩ := Bytes.splitOn_eq_singleton_iff.mp hrest'
          apply lineEnd_of_words
          rw [List.append_assoc, List.cons_append]
        next => exact .broken _

end Channel.Reply

end GitCensus
