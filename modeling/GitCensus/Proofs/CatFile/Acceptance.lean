import GitCensus.Proofs.CatFile.Ends
import GitCensus.Proofs.Channel.Exchange
/-!
# Which replies are accepted

On a stream that ends without a failure a request is answered by what the replies say if
they are well formed, however the stream parts them, and the replies behind are left as they
are.  All other replies are reported as breaking the format.
-/

namespace GitCensus

namespace Channel

open ReplyStream (transport)

variable {id : ObjectId} {c : Channel ReplyStream} {rest : Bytes}

/-- An open stream that takes requests and ends without a failure.  If the replies begin with
a line that states the size of `id`, the size can be read and asked for. -/
structure Answering (id : ObjectId) (s : ReplyStream) : Prop where
  flowing : s.Flowing
  accepts : s.refusesInput = false
  ends : s.breaksOff = false
  sizes : ∀ kind digits, Reply.Leads id kind digits s.unread →
    digits.length ≤ Text.Decimal.digitLimit ∧ Bytes.value 10 digits < longestRead

theorem Answering.answered (h : Answering id c.link) (rest : Bytes) :
    (c.answered id rest).link.Flowing ∧ (c.answered id rest).link.breaksOff = false :=
  ⟨⟨h.flowing.isOpen, h.flowing.portion_ne_zero⟩, h.ends⟩

theorem request_of_cutOff (h : Answering id c.link) (hend : Bytes.lineFeed ∉ c.link.unread) :
    (c.request transport id).1 = .error (.protocol (.endOfReplies c.name id)) := by
  have hread : transport.readLine { c.link with sent := c.link.sent ++ requestLine id } =
      (.ok c.link.unread, { c.link with unread := [], sent := c.link.sent ++ requestLine id }) := by
    simp [transport, ReplyStream.readLine, h.flowing.isOpen, h.ends, Bytes.cut_eq_none_iff.mpr hend]
  have hlast : c.link.unread.getLast? ≠ some Bytes.lineFeed :=
    fun hlast => hend (List.mem_of_getLast? hlast)
  simp [request, send_of_open h.flowing.isOpen h.accepts, hread, hlast]

/-- The ways that the line of a reply can be read. -/
inductive LineRead (id : ObjectId) (c : Channel ReplyStream) :
    Except Fault Reply × Channel ReplyStream → Prop
  | broken (cause : ProtocolFault) (c' : Channel ReplyStream) :
      LineRead id c (.error (.protocol cause), c')
  | missing {rest : Bytes}
      (hunread : c.link.unread = Reply.render id .missing ++ Bytes.lineFeed :: rest) :
      LineRead id c (.ok .missing, c.answered id rest)
  | header {kind : ObjectKind} {digits rest : Bytes} (hkind : kind ∈ ObjectKind.proper)
      (hdigits : Bytes.isDigits digits = true) (hsize : Bytes.value 10 digits < longestRead)
      (hunread : c.link.unread = Reply.statement id kind digits ++ Bytes.lineFeed :: rest) :
      LineRead id c (.ok (.header kind (Bytes.value 10 digits)), c.answered id rest)

theorem lineRead (h : Answering id c.link) : LineRead id c (c.request transport id) := by
  cases hcut : Bytes.cut Bytes.lineFeed c.link.unread with
  | none =>
      have hbroken := request_of_cutOff h (Bytes.cut_eq_none_iff.mp hcut)
      generalize c.request transport id = result at hbroken ⊢
      obtain ⟨answer, c'⟩ := result
      obtain rfl : answer = .error (.protocol (.endOfReplies c.name id)) := hbroken
      exact .broken _ c'
  | some found =>
      obtain ⟨line, rest⟩ := found
      obtain ⟨hunread, hline⟩ := Bytes.cut_eq_some_iff.mp hcut
      rw [request_of_cut h.flowing.isOpen h.accepts hunread hline]
      have hread := Reply.lineEnd id line
      generalize Reply.parse id line = answer at hread ⊢
      cases hread with
      | missing hmissing =>
          rw [hmissing] at hunread
          exact .missing hunread
      | @header kind digits hkind hdigits hstates =>
          have hsize := (h.sizes kind digits (leads_of_line hkind hdigits hstates hunread)).2
          rw [hstates] at hunread
          exact .header hkind hdigits hsize hunread
      | @endless kind digits hkind hdigits hstates hlength =>
          -- the stream states no size of so many digits
          have hshort := (h.sizes kind digits (leads_of_line hkind hdigits hstates hunread)).1
          omega
      | broken cause => exact .broken cause _

theorem request_of_missing (h : Answering id c.link)
    (hunread : c.link.unread = Reply.render id .missing ++ Bytes.lineFeed :: rest) :
    c.request transport id = (.ok .missing, c.answered id rest) := by
  rw [request_of_cut h.flowing.isOpen h.accepts hunread Reply.lineFeed_notMem_missing,
    Reply.parse_missing]

theorem request_of_statement {kind : ObjectKind} {digits : Bytes} (h : Answering id c.link)
    (hkind : kind ∈ ObjectKind.proper) (hdigits : Bytes.isDigits digits = true)
    (hunread : c.link.unread = Reply.statement id kind digits ++ Bytes.lineFeed :: rest) :
    c.request transport id = (.ok (.header kind (Bytes.value 10 digits)), c.answered id rest) ∧
      Bytes.value 10 digits < longestRead := by
  obtain ⟨hlength, hsize⟩ := h.sizes kind digits (leads_of_line hkind hdigits rfl hunread)
  have hline : Bytes.lineFeed ∉ Reply.statement id kind digits :=
    Reply.lineFeed_notMem_statement hkind hdigits
  refine ⟨?_, hsize⟩
  rw [request_of_cut h.flowing.isOpen h.accepts hunread hline, Reply.parse_statement hkind hdigits,
    Reply.readSize_of_le hdigits hlength]
  rfl

/-! ## Payloads -/

theorem payloadResult_cases {s : ReplyStream} {size : Nat} (hends : s.breaksOff = false)
    (hsize : size < longestRead) (name : String) :
    payloadResult name (size + 1) (s.supply (size + 1)) = .ok (s.unread.take (size + 1)) ∧
        size < s.unread.length ∨
      ∃ cause, payloadResult name (size + 1) (s.supply (size + 1)) = .error (.protocol cause) := by
  have htoNat : (size + 1 : Int).toNat = size + 1 := rfl
  rcases Nat.lt_or_ge size s.unread.length with hlong | hshort
  · have hlength : (s.unread.take (size + 1)).length = size + 1 := by
      rw [List.length_take]
      omega
    have hsupply := supply_of_append (List.take_append_drop (size + 1) s.unread).symm
    rw [hlength] at hsupply
    refine .inl ⟨?_, hlong⟩
    rw [hsupply, payloadResult, if_pos ⟨rfl, by omega⟩]
  · have hpart : (s.unread.length : Int) < size + 1 := by omega
    have hresult := payloadResult_short hends name hpart
    have hwritable : Text.Decimal.isWritable (size + 1) = true := by
      by_contra hlong
      have hlt := longestRead_lt_of_not_writable (by simpa using hlong)
      omega
    rw [htoNat, shortFault, if_pos hwritable] at hresult
    exact .inr ⟨_, hresult⟩

/-- A payload and the byte behind it are read in full, or they break the format. -/
theorem readExactly_end {c' : Channel ReplyStream} {size : Nat} {answer : Except Fault Bytes}
    (hs : c.link.Flowing) (hends : c.link.breaksOff = false) (hsize : size < longestRead)
    (hread : c.readExactly transport (size + 1) = (answer, c')) :
    (answer = .ok (c.link.unread.take (size + 1)) ∧ size < c.link.unread.length ∧
        c'.link.unread = c.link.unread.drop (size + 1)) ∨
      ∃ cause, answer = .error (.protocol cause) := by
  obtain ⟨-, asked, hcollect⟩ := collect_flowing hs (n := size + 1) hsize []
  have htoNat : (size + 1 : Int).toNat = size + 1 := rfl
  rw [readExactly_flowing hs (by omega), htoNat] at hread
  obtain ⟨rfl, rfl⟩ := Prod.mk.inj hread
  rcases payloadResult_cases hends hsize c.name with ⟨hresult, hlong⟩ | hbroken
  · exact .inl ⟨hresult, hlong, by dsimp only; rw [hcollect]⟩
  · exact .inr hbroken

theorem skip_end {c' : Channel ReplyStream} {size : Nat} {answer : Except Fault Unit}
    (hs : c.link.Flowing) (hends : c.link.breaksOff = false) (hsize : size < longestRead)
    (hskip : c.skip transport (size + 1) = (answer, c')) :
    (answer = .ok () ∧ size < c.link.unread.length ∧
        c'.link.unread = c.link.unread.drop (size + 1)) ∨
      ∃ cause, answer = .error (.protocol cause) := by
  obtain ⟨-, asked, hdiscard⟩ := discard_flowing hs (size + 1)
  have htoNat : (size + 1 : Int).toNat = size + 1 := rfl
  rw [skip_flowing hs, htoNat] at hskip
  obtain ⟨rfl, rfl⟩ := Prod.mk.inj hskip
  rcases payloadResult_cases hends hsize c.name with ⟨hresult, hlong⟩ | ⟨cause, hbroken⟩
  · exact .inl ⟨by rw [hresult]; rfl, hlong, by dsimp only; rw [hdiscard]⟩
  · exact .inr ⟨cause, by rw [hbroken]; rfl⟩

end Channel

namespace CatFile.Client

open Channel (ReplyStream Reply Answering lineRead longestRead readExactly_end skip_end)
open Channel.ReplyStream (transport)

variable {id : ObjectId} {c : Client ReplyStream} {rest : Bytes}

/-- The answer to a request for a header, and the replies left behind it. -/
def headerAnswer (id : ObjectId) (c : Client ReplyStream) : Except Fault Header × Bytes :=
  ((c.readHeader transport id).1, (c.readHeader transport id).2.headers.link.unread)

/-- The answer to a request for a tree, and the replies left behind it. -/
def treeAnswer (id : ObjectId) (c : Client ReplyStream) : Except Fault Bytes × Bytes :=
  ((c.readTree transport id).1, (c.readTree transport id).2.payloads.link.unread)

/-- The replies to a request for a header that are well formed, with the answer they give and
what is left. -/
inductive HeaderReply (id : ObjectId) : Bytes → Except Fault Header × Bytes → Prop
  | missing {rest : Bytes} :
      HeaderReply id (Reply.render id .missing ++ Bytes.lineFeed :: rest) (.error (.missing id), rest)
  | header {kind : ObjectKind} {digits rest : Bytes} (hkind : kind ∈ ObjectKind.proper)
      (hdigits : Bytes.isDigits digits = true) :
      HeaderReply id (Reply.statement id kind digits ++ Bytes.lineFeed :: rest)
        (.ok ⟨kind, Bytes.value 10 digits⟩, rest)

/-- The replies to a request for a tree that are well formed. -/
inductive TreeReply (id : ObjectId) : Bytes → Except Fault Bytes × Bytes → Prop
  | missing {rest : Bytes} :
      TreeReply id (Reply.render id .missing ++ Bytes.lineFeed :: rest) (.error (.missing id), rest)
  | tree {digits data rest : Bytes} (hdigits : Bytes.isDigits digits = true)
      (hlength : Bytes.value 10 digits = data.length) :
      TreeReply id (Reply.statement id .tree digits ++ Bytes.lineFeed ::
        (data ++ Bytes.lineFeed :: rest)) (.ok data, rest)
  | other {kind : ObjectKind} {digits payload rest : Bytes}
      (hkind : kind ∈ [ObjectKind.blob, .commit, .tag]) (hdigits : Bytes.isDigits digits = true)
      (hlength : payload.length = Bytes.value 10 digits + 1) :
      TreeReply id (Reply.statement id kind digits ++ Bytes.lineFeed :: (payload ++ rest))
        (.error (.wrongKind id kind.name "tree"), rest)

theorem mem_proper_iff {kind : ObjectKind} :
    kind ∈ ObjectKind.proper ↔ kind = .tree ∨ kind ∈ [ObjectKind.blob, .commit, .tag] := by
  simp only [ObjectKind.proper, List.mem_cons, List.not_mem_nil, or_false]
  constructor
  · rintro (rfl | rfl | rfl | rfl) <;> simp
  · rintro (rfl | rfl | rfl | rfl) <;> simp

/-! ## Headers -/

theorem headerAnswer_of_reply {result : Except Fault Header × Bytes}
    (h : Answering id c.headers.link) (hreply : HeaderReply id c.headers.link.unread result) :
    c.headerAnswer id = result := by
  generalize hunread : c.headers.link.unread = replies at hreply
  cases hreply with
  | missing => simp [headerAnswer, readHeader, Channel.request_of_missing h hunread]
  | header hkind hdigits =>
      obtain ⟨hrequest, -⟩ := Channel.request_of_statement h hkind hdigits hunread
      simp [headerAnswer, readHeader, hrequest]

theorem headerReply_or_protocol (h : Answering id c.headers.link) :
    HeaderReply id c.headers.link.unread (c.headerAnswer id) ∨
      ∃ cause, (c.headerAnswer id).1 = .error (.protocol cause) := by
  have hline := lineRead h
  generalize hrequest : c.headers.request transport id = result at hline
  cases hline with
  | broken cause => exact .inr ⟨cause, by simp [headerAnswer, readHeader, hrequest]⟩
  | missing hunread =>
      left
      rw [hunread]
      simp only [headerAnswer, readHeader, hrequest]
      exact .missing
  | header hkind hdigits _ hunread =>
      left
      rw [hunread]
      simp only [headerAnswer, readHeader, hrequest]
      exact .header hkind hdigits

/-! ## Trees -/

theorem treeAnswer_of_reply {result : Except Fault Bytes × Bytes}
    (h : Answering id c.payloads.link) (hreply : TreeReply id c.payloads.link.unread result) :
    c.treeAnswer id = result := by
  generalize hunread : c.payloads.link.unread = replies at hreply
  cases hreply with
  | missing => simp [treeAnswer, readTree, Channel.request_of_missing h hunread]
  | @tree digits data rest hdigits hlength =>
      obtain ⟨hrequest, hsize⟩ := Channel.request_of_statement h (by decide) hdigits hunread
      have hpayload : (c.payloads.answered id (data ++ Bytes.lineFeed :: rest)).link.unread =
          (data ++ [Bytes.lineFeed]) ++ rest := by simp
      have hcount : (Bytes.value 10 digits + 1 : Int) = (data ++ [Bytes.lineFeed]).length := by
        rw [hlength, List.length_append]
        rfl
      obtain ⟨link, ⟨asked, rfl⟩, hread⟩ := Channel.readExactly_append (h.answered _).1 hpayload
        (by rw [List.length_append, List.length_singleton]; omega)
      unfold treeAnswer readTree
      rw [hrequest]
      dsimp only
      rw [if_pos rfl, hcount, hread]
      simp
  | @other kind digits payload rest hkind hdigits hlength =>
      have hproper := mem_proper_iff.mpr (.inr hkind)
      have hne : kind ≠ .tree := by
        rintro rfl
        exact absurd hkind (by decide)
      obtain ⟨hrequest, -⟩ := Channel.request_of_statement h hproper hdigits hunread
      have hcount : (Bytes.value 10 digits + 1 : Int) = payload.length := by
        rw [hlength]
        rfl
      obtain ⟨link, ⟨asked, rfl⟩, hskip⟩ :=
        Channel.skip_append (h.answered (payload ++ rest)).1 Channel.unread_answered
      simp [treeAnswer, readTree, hrequest, hne, hcount, hskip]
      rfl

theorem treeReply_or_protocol (h : Answering id c.payloads.link) :
    TreeReply id c.payloads.link.unread (c.treeAnswer id) ∨
      ∃ cause, (c.treeAnswer id).1 = .error (.protocol cause) := by
  -- each way that the request can end is met with the ways that its line can be read
  have hline := lineRead h
  have hend := treeEnd transport id c
  unfold treeAnswer
  generalize c.readTree transport id = result at hend ⊢
  cases hend with
  | failed hrequest =>
      rw [hrequest] at hline
      cases hline with
      | broken cause => exact .inr ⟨cause, rfl⟩
  | missing hrequest =>
      rw [hrequest] at hline
      cases hline with
      | missing hunread =>
          rw [hunread]
          exact .inl .missing
  | unread hrequest hread =>
      rw [hrequest] at hline
      cases hline with
      | @header _ digits rest _ _ hsize =>
          obtain ⟨hs, hends⟩ := h.answered rest
          rcases readExactly_end hs hends hsize hread with ⟨hdata, -⟩ | ⟨cause, hbroken⟩
          · cases hdata
          · exact .inr ⟨cause, hbroken⟩
  | unterminated => exact .inr ⟨_, rfl⟩
  | @tree _ data _ _ hrequest hread hlast =>
      rw [hrequest] at hline
      cases hline with
      | @header _ digits rest _ hdigits hsize hunread =>
          obtain ⟨hs, hends⟩ := h.answered rest
          rcases readExactly_end hs hends hsize hread with ⟨hdata, hlong, hleft⟩ | ⟨cause, hbroken⟩
          · rw [Channel.unread_answered] at hdata hlong hleft
            have hlength : Bytes.value 10 digits = data.dropLast.length := by
              rw [Except.ok.inj hdata, List.length_dropLast, List.length_take]
              omega
            have hrest : rest = data.dropLast ++ Bytes.lineFeed ::
                rest.drop (Bytes.value 10 digits + 1) := by
              rw [← List.singleton_append, ← List.append_assoc,
                List.dropLast_append_getLast? _ hlast, Except.ok.inj hdata, List.take_append_drop]
            rw [hunread, hrest]
            left
            dsimp only
            rw [hleft]
            exact .tree hdigits hlength
          · cases hbroken
  | unskipped hrequest hkind hskip =>
      rw [hrequest] at hline
      cases hline with
      | @header _ digits rest _ _ hsize =>
          obtain ⟨hs, hends⟩ := h.answered rest
          rcases skip_end hs hends hsize hskip with ⟨hdone, -⟩ | ⟨cause, hbroken⟩
          · cases hdone
          · obtain rfl := Except.error.inj hbroken
            exact .inr ⟨cause, rfl⟩
  | other hrequest hkind hskip =>
      rw [hrequest] at hline
      cases hline with
      | @header kind digits rest hproper hdigits hsize hunread =>
          obtain ⟨hs, hends⟩ := h.answered rest
          rcases skip_end hs hends hsize hskip with ⟨-, hlong, hleft⟩ | ⟨cause, hbroken⟩
          · rw [Channel.unread_answered] at hlong hleft
            have hother := (mem_proper_iff.mp hproper).resolve_left hkind
            have hlength : (rest.take (Bytes.value 10 digits + 1)).length =
                Bytes.value 10 digits + 1 := by
              rw [List.length_take]
              omega
            rw [hunread, ← List.take_append_drop (Bytes.value 10 digits + 1) rest]
            left
            dsimp only
            rw [hleft]
            exact .other hother hdigits hlength
          · cases hbroken

/-! ## What is accepted -/

theorem headerAnswer_eq_iff {answer : Except Fault Header} (h : Answering id c.headers.link)
    (hanswer : ∀ cause, answer ≠ .error (.protocol cause)) :
    c.headerAnswer id = (answer, rest) ↔ HeaderReply id c.headers.link.unread (answer, rest) := by
  constructor
  · intro heq
    rcases headerReply_or_protocol h with hreply | ⟨cause, hbroken⟩
    · exact heq ▸ hreply
    · rw [heq] at hbroken
      exact absurd hbroken (hanswer cause)
  · exact headerAnswer_of_reply h

theorem treeAnswer_eq_iff {answer : Except Fault Bytes} (h : Answering id c.payloads.link)
    (hanswer : ∀ cause, answer ≠ .error (.protocol cause)) :
    c.treeAnswer id = (answer, rest) ↔ TreeReply id c.payloads.link.unread (answer, rest) := by
  constructor
  · intro heq
    rcases treeReply_or_protocol h with hreply | ⟨cause, hbroken⟩
    · exact heq ▸ hreply
    · rw [heq] at hbroken
      exact absurd hbroken (hanswer cause)
  · exact treeAnswer_of_reply h

theorem headerReply_missing_iff {replies : Bytes} :
    HeaderReply id replies (.error (.missing id), rest) ↔
      replies = Reply.render id .missing ++ Bytes.lineFeed :: rest := by
  constructor
  · intro h
    cases h with
    | missing => rfl
  · rintro rfl
    exact .missing

theorem headerReply_ok_iff {replies : Bytes} {kind : ObjectKind} {size : Int} :
    HeaderReply id replies (.ok ⟨kind, size⟩, rest) ↔
      kind ∈ ObjectKind.proper ∧ ∃ digits, Bytes.isDigits digits = true ∧
        Bytes.value 10 digits = size ∧
        replies = Reply.statement id kind digits ++ Bytes.lineFeed :: rest := by
  constructor
  · intro h
    cases h with
    | header hkind hdigits => exact ⟨hkind, _, hdigits, rfl, rfl⟩
  · rintro ⟨hkind, digits, hdigits, rfl, rfl⟩
    exact .header hkind hdigits

theorem treeReply_missing_iff {replies : Bytes} :
    TreeReply id replies (.error (.missing id), rest) ↔
      replies = Reply.render id .missing ++ Bytes.lineFeed :: rest := by
  constructor
  · intro h
    cases h with
    | missing => rfl
  · rintro rfl
    exact .missing

theorem treeReply_ok_iff {replies data : Bytes} :
    TreeReply id replies (.ok data, rest) ↔
      ∃ digits, Bytes.isDigits digits = true ∧ Bytes.value 10 digits = data.length ∧
        replies = Reply.statement id .tree digits ++ Bytes.lineFeed ::
          (data ++ Bytes.lineFeed :: rest) := by
  constructor
  · intro h
    cases h with
    | tree hdigits hlength => exact ⟨_, hdigits, hlength, rfl⟩
  · rintro ⟨digits, hdigits, hlength, rfl⟩
    exact .tree hdigits hlength

theorem treeReply_wrongKind_iff {replies : Bytes} {kind : ObjectKind}
    (hkind : kind ∈ [ObjectKind.blob, .commit, .tag]) :
    TreeReply id replies (.error (.wrongKind id kind.name "tree"), rest) ↔
      ∃ digits payload, Bytes.isDigits digits = true ∧
        payload.length = Bytes.value 10 digits + 1 ∧
        replies = Reply.statement id kind digits ++ Bytes.lineFeed :: (payload ++ rest) := by
  constructor
  · intro h
    generalize hname : kind.name = name at h
    cases h with
    | @other kind' _ _ _ hkind' hdigits hlength =>
        obtain rfl := ObjectKind.eq_of_name_eq (mem_proper_iff.mpr (.inr hkind))
          (mem_proper_iff.mpr (.inr hkind')) hname
        exact ⟨_, _, hdigits, hlength, rfl⟩
  · rintro ⟨digits, payload, hdigits, hlength, rfl⟩
    exact .other hkind hdigits hlength

/-- On streams that end without a failure, however they part the replies, a request for a
tree is answered exactly by the replies that state its payload, the word that it is missing
or the payload of another kind, and a request for a header exactly by those that state one.
What follows is left unread, and all other replies break the format. -/
theorem accepts_stated_replies (hpayloads : Answering id c.payloads.link)
    (hheaders : Answering id c.headers.link) :
    (∀ data rest, c.treeAnswer id = (.ok data, rest) ↔
      ∃ digits, Bytes.isDigits digits = true ∧ Bytes.value 10 digits = data.length ∧
        c.payloads.link.unread = Reply.statement id .tree digits ++ Bytes.lineFeed ::
          (data ++ Bytes.lineFeed :: rest)) ∧
    (∀ rest, c.treeAnswer id = (.error (.missing id), rest) ↔
      c.payloads.link.unread = Reply.render id .missing ++ Bytes.lineFeed :: rest) ∧
    (∀ kind ∈ [ObjectKind.blob, .commit, .tag], ∀ rest,
      c.treeAnswer id = (.error (.wrongKind id kind.name "tree"), rest) ↔
        ∃ digits payload, Bytes.isDigits digits = true ∧
          payload.length = Bytes.value 10 digits + 1 ∧
          c.payloads.link.unread = Reply.statement id kind digits ++ Bytes.lineFeed ::
            (payload ++ rest)) ∧
    ((∃ data, (c.treeAnswer id).1 = .ok data) ∨ (c.treeAnswer id).1 = .error (.missing id) ∨
      (∃ kind ∈ [ObjectKind.blob, .commit, .tag],
        (c.treeAnswer id).1 = .error (.wrongKind id kind.name "tree")) ∨
      ∃ cause, (c.treeAnswer id).1 = .error (.protocol cause)) ∧
    (∀ kind size rest, c.headerAnswer id = (.ok ⟨kind, size⟩, rest) ↔
      kind ∈ [ObjectKind.blob, .tree, .commit, .tag] ∧ ∃ digits, Bytes.isDigits digits = true ∧
        Bytes.value 10 digits = size ∧
        c.headers.link.unread = Reply.statement id kind digits ++ Bytes.lineFeed :: rest) ∧
    (∀ rest, c.headerAnswer id = (.error (.missing id), rest) ↔
      c.headers.link.unread = Reply.render id .missing ++ Bytes.lineFeed :: rest) ∧
    ((∃ header, (c.headerAnswer id).1 = .ok header) ∨
      (c.headerAnswer id).1 = .error (.missing id) ∨
      ∃ cause, (c.headerAnswer id).1 = .error (.protocol cause)) := by
  refine ⟨fun data rest => ?_, fun rest => ?_, fun kind hkind rest => ?_, ?_,
    fun kind size rest => ?_, fun rest => ?_, ?_⟩
  · exact (treeAnswer_eq_iff hpayloads (by nofun)).trans treeReply_ok_iff
  · exact (treeAnswer_eq_iff hpayloads (by nofun)).trans treeReply_missing_iff
  · exact (treeAnswer_eq_iff hpayloads (by nofun)).trans (treeReply_wrongKind_iff hkind)
  · rcases treeReply_or_protocol hpayloads with hreply | hbroken
    · generalize c.payloads.link.unread = replies at hreply
      generalize c.treeAnswer id = result at hreply ⊢
      cases hreply with
      | missing => exact .inr (.inl rfl)
      | tree => exact .inl ⟨_, rfl⟩
      | other hkind => exact .inr (.inr (.inl ⟨_, hkind, rfl⟩))
    · exact .inr (.inr (.inr hbroken))
  · exact (headerAnswer_eq_iff hheaders (by nofun)).trans headerReply_ok_iff
  · exact (headerAnswer_eq_iff hheaders (by nofun)).trans headerReply_missing_iff
  · rcases headerReply_or_protocol hheaders with hreply | hbroken
    · generalize c.headers.link.unread = replies at hreply
      generalize c.headerAnswer id = result at hreply ⊢
      cases hreply with
      | missing => exact .inr (.inl rfl)
      | header => exact .inl ⟨_, rfl⟩
    · exact .inr (.inr hbroken)

/-- A tree of three bytes, its size written with leading zeros and the replies delivered one
byte at a time, and the header of a blob. -/
theorem accepts_stated_replies_padded :
    ∃ c : Client ReplyStream, (∀ asked, c.payloads.link.portion asked = some 1) ∧
      c.payloads.link.unread =
        Reply.statement .zero .tree [0x30, 0x30, 0x33] ++ [0x0a, 1, 2, 3, 0x0a, 4] ∧
      c.treeAnswer .zero = (.ok [1, 2, 3], [4]) ∧
      c.headers.link.unread = Reply.statement .zero .blob [0x37] ++ [0x0a, 5] ∧
      c.headerAnswer .zero = (.ok ⟨.blob, 7⟩, [5]) := by
  let c : Client ReplyStream := .connect
    { unread := Reply.statement .zero .blob [0x37] ++ [0x0a, 5] }
    { unread := Reply.statement .zero .tree [0x30, 0x30, 0x33] ++ [0x0a, 1, 2, 3, 0x0a, 4]
      portion := fun _ => some 1 }
  have htree : Reply.Leads .zero .tree [0x30, 0x30, 0x33] c.payloads.link.unread :=
    ⟨by decide, by decide, [1, 2, 3, 0x0a, 4], rfl⟩
  have hblob : Reply.Leads .zero .blob [0x37] c.headers.link.unread :=
    ⟨by decide, by decide, [5], rfl⟩
  have hpayloads : Answering .zero c.payloads.link :=
    ⟨⟨rfl, fun _ => by simp [c, connect]⟩, rfl, rfl, fun kind digits h => by
      rw [h.digits_eq htree]
      decide⟩
  have hheaders : Answering .zero c.headers.link :=
    ⟨⟨rfl, fun _ => by simp [c, connect]⟩, rfl, rfl, fun kind digits h => by
      rw [h.digits_eq hblob]
      decide⟩
  obtain ⟨htreeAnswer, -, -, -, hheaderAnswer, -⟩ := accepts_stated_replies hpayloads hheaders
  refine ⟨c, fun _ => rfl, rfl, ?_, rfl, ?_⟩
  · exact (htreeAnswer _ _).mpr ⟨[0x30, 0x30, 0x33], by decide, by decide, rfl⟩
  · exact (hheaderAnswer _ _ _).mpr ⟨by decide, [0x37], by decide, by decide, rfl⟩

end CatFile.Client

end GitCensus
