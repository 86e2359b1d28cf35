import GitCensus.Proofs.Channel.Reading
import GitCensus.Proofs.Channel.Reply
/-!
# Requests and payloads on a channel

What a request and the payload after its reply line come to on a stream of replies:
exactly what the stream states where it states something, and otherwise a fault.
-/

namespace GitCensus.Channel

/-! ## On any transport -/

section Transports

variable {τ τ' : Type} {T : Transport τ} {T' : Transport τ'} {put : τ → τ'} {id : ObjectId}
  {line : Bytes}

theorem request_of_line {c : Channel τ} {link link' : τ}
    (hsend : T.send (requestLine id) c.link = (.ok (), link))
    (hline : T.readLine link = (.ok (line ++ [Bytes.lineFeed]), link')) :
    c.request T id = (Reply.parse id line, { c with link := link' }) := by
  simp [request, hsend, hline]

theorem readExactly_lift
    (h : ∀ n link, T'.read n (put link) = ((T.read n link).1, put (T.read n link).2))
    (size : Int) (name : String) (link : τ) :
    readExactly T' size ⟨name, put link⟩ =
      ((readExactly T size ⟨name, link⟩).1, ⟨name, put (readExactly T size ⟨name, link⟩).2.link⟩) := by
  unfold readExactly
  rw [collect_lift h]
  obtain ⟨answer, link'⟩ := collect T size.toNat [] link
  cases answer with
  | error cause => rfl
  | ok got =>
      dsimp only
      split <;> rfl

theorem skip_lift
    (h : ∀ n link, T'.read n (put link) = ((T.read n link).1, put (T.read n link).2))
    (size : Int) (name : String) (link : τ) :
    skip T' size ⟨name, put link⟩ =
      ((skip T size ⟨name, link⟩).1, ⟨name, put (skip T size ⟨name, link⟩).2.link⟩) := by
  unfold skip
  rw [discard_lift h]
  obtain ⟨answer, link'⟩ := discard T size.toNat link
  cases answer with
  | error cause => rfl
  | ok missing =>
      dsimp only
      split <;> rfl

end Transports

open ReplyStream (Taken transport)

/-! ## On streams that deliver -/

variable {c : Channel ReplyStream} {id : ObjectId} {data line rest : Bytes} {size : Int}

/-- What a payload of `size` bytes comes to, by what the stream has for it. -/
def payloadResult (name : String) (size : Int) : Except StreamFault (Bytes × Nat) → Except Fault Bytes
  | .error cause => .error (payloadFault name cause)
  | .ok (data, missing) =>
    if missing = 0 ∧ 0 ≤ size then .ok data else .error (shortFault name size (size.toNat - missing))

theorem readExactly_flowing (hs : c.link.Flowing) (hsize : size ≤ longestRead) :
    c.readExactly transport size = (payloadResult c.name size (c.link.supply size.toNat),
      { c with link := (collect transport size.toNat [] c.link).2 }) := by
  obtain ⟨hcollect, -⟩ := collect_flowing hs (n := size.toNat) (by omega) []
  unfold readExactly
  generalize collect transport size.toNat [] c.link = result at hcollect ⊢
  generalize c.link.supply size.toNat = supplied at hcollect ⊢
  obtain ⟨cause | ⟨pieces, missing⟩, link⟩ := result
  · obtain cause' | got := supplied
    · rw [Except.error.inj hcollect]
      rfl
    · cases hcollect
  · obtain cause' | ⟨data, missing'⟩ := supplied
    · cases hcollect
    · obtain ⟨hpieces, hmissing⟩ := Prod.mk.inj (Except.ok.inj hcollect)
      simp only [List.reverse_nil, List.flatten_nil, List.nil_append] at hpieces hmissing
      dsimp only [payloadResult]
      rw [hpieces, hmissing]
      split <;> rfl

theorem skip_flowing (hs : c.link.Flowing) (size : Int) :
    c.skip transport size = ((payloadResult c.name size (c.link.supply size.toNat)).map fun _ => (),
      { c with link := (discard transport size.toNat c.link).2 }) := by
  obtain ⟨hdiscard, -⟩ := discard_flowing hs size.toNat
  unfold skip
  generalize discard transport size.toNat c.link = result at hdiscard ⊢
  generalize c.link.supply size.toNat = supplied at hdiscard ⊢
  obtain ⟨cause | missing, link⟩ := result
  · obtain cause' | got := supplied
    · rw [Except.error.inj hdiscard]
      rfl
    · cases hdiscard
  · obtain cause' | ⟨data, missing'⟩ := supplied
    · cases hdiscard
    · rw [Except.ok.inj hdiscard]
      dsimp only [payloadResult]
      split <;> rfl

/-! ## On streams that hold what is asked for -/

theorem supply_of_append {s : ReplyStream} (hunread : s.unread = data ++ rest) :
    s.supply data.length = .ok (data, 0) := by
  have hlength : data.length ≤ s.unread.length := by
    rw [hunread, List.length_append]
    omega
  rw [ReplyStream.supply, if_neg (by omega), hunread, List.take_left,
    Nat.sub_eq_zero_of_le (hunread ▸ hlength)]

theorem readExactly_append (hs : c.link.Flowing) (hunread : c.link.unread = data ++ rest)
    (hlength : data.length ≤ longestRead) :
    ∃ link, Taken data.length c.link link ∧
      c.readExactly transport data.length = (.ok data, { c with link }) := by
  refine ⟨_, (collect_flowing hs hlength []).2, ?_⟩
  rw [readExactly_flowing hs (by omega), Int.toNat_natCast, supply_of_append hunread]
  simp [payloadResult]

theorem skip_append (hs : c.link.Flowing) (hunread : c.link.unread = data ++ rest) :
    ∃ link, Taken data.length c.link link ∧
      c.skip transport data.length = (.ok (), { c with link }) := by
  refine ⟨_, (discard_flowing hs data.length).2, ?_⟩
  rw [skip_flowing hs, Int.toNat_natCast, supply_of_append hunread]
  simp [payloadResult, Except.map]

/-- A payload that is too long for one read of a stream without portions. -/
theorem readExactly_tooLong (hopen : c.link.isClosed = false)
    (hwhole : ∀ asked, c.link.portion asked = none) (hlong : longestRead < size.toNat) :
    (c.readExactly transport size).1 = .error .readTooLong := by
  have hread : transport.read size.toNat c.link =
      (.error .tooLong, { c.link with asked := size.toNat :: c.link.asked }) := by
    simp [transport, ReplyStream.read, hopen, hwhole, hlong]
  rw [readExactly, collect, if_neg (by omega), hread]
  rfl

/-- A payload that ends early is as short as the stream. -/
theorem payloadResult_short {s : ReplyStream} (hends : s.breaksOff = false) (name : String)
    (hshort : s.unread.length < size) :
    payloadResult name size (s.supply size.toNat) = .error (shortFault name size s.unread.length) := by
  have hgot : (size.toNat : Int) - (size.toNat - s.unread.length : Nat) = s.unread.length := by omega
  rw [ReplyStream.supply, hends, if_neg (by simp), payloadResult, if_neg (by omega), hgot]

theorem skip_short (hs : c.link.Flowing) (hends : c.link.breaksOff = false)
    (hshort : c.link.unread.length < size) :
    (c.skip transport size).1 = .error (shortFault c.name size c.link.unread.length) := by
  rw [skip_flowing hs, payloadResult_short hends c.name hshort]
  rfl

/-- The channel after a request whose reply line ends where `rest` begins. -/
def answered (id : ObjectId) (c : Channel ReplyStream) (rest : Bytes) : Channel ReplyStream :=
  { c with link := { c.link with unread := rest, sent := c.link.sent ++ requestLine id } }

@[simp] theorem unread_answered : (c.answered id rest).link.unread = rest := rfl

theorem send_of_open (hopen : c.link.isClosed = false) (haccepts : c.link.refusesInput = false) :
    transport.send (requestLine id) c.link =
      (.ok (), { c.link with sent := c.link.sent ++ requestLine id }) := by
  simp [transport, ReplyStream.send, hopen, haccepts]

theorem request_of_cut {line : Bytes} (hopen : c.link.isClosed = false)
    (haccepts : c.link.refusesInput = false)
    (hunread : c.link.unread = line ++ Bytes.lineFeed :: rest) (hline : Bytes.lineFeed ∉ line) :
    c.request transport id = (Reply.parse id line, c.answered id rest) := by
  apply request_of_line (send_of_open hopen haccepts)
  simp [transport, ReplyStream.readLine, hopen, hunread, Bytes.cut_append hline]

/-- A line that states a kind and a size is read as a reply. -/
theorem request_of_leads {kind : ObjectKind} {digits : Bytes} (hopen : c.link.isClosed = false)
    (haccepts : c.link.refusesInput = false) (hleads : Reply.Leads id kind digits c.link.unread) :
    ∃ rest, c.link.unread = Reply.statement id kind digits ++ Bytes.lineFeed :: rest ∧
      c.request transport id =
        ((Reply.readSize id digits).map (.header kind), c.answered id rest) := by
  obtain ⟨rest, hrest⟩ := hleads.line
  have hunread : c.link.unread = Reply.statement id kind digits ++ Bytes.lineFeed :: rest := by
    rw [← hrest, List.append_assoc, List.singleton_append]
  have hline : Bytes.lineFeed ∉ Reply.statement id kind digits :=
    Reply.lineFeed_notMem_statement hleads.isProper hleads.isDigits
  refine ⟨rest, hunread, ?_⟩
  rw [request_of_cut hopen haccepts hunread hline,
    Reply.parse_statement hleads.isProper hleads.isDigits]

/-! ## On any stream -/

inductive RequestEnd (id : ObjectId) (c : Channel ReplyStream) :
    Except Fault Reply × Channel ReplyStream → Prop
  | failed {cause : StreamFault} {link : ReplyStream} (hcause : cause ≠ .tooLong)
      (hsuffix : link.unread <:+ c.link.unread) :
      RequestEnd id c (.error (.channel (.request c.name id cause)), { c with link })
  | cutOff (hend : Bytes.lineFeed ∉ c.link.unread) {link : ReplyStream}
      (hsuffix : link.unread <:+ c.link.unread) :
      RequestEnd id c (.error (.protocol (.endOfReplies c.name id)), { c with link })
  | line {line rest : Bytes} (hunread : c.link.unread = line ++ Bytes.lineFeed :: rest)
      (hline : Bytes.lineFeed ∉ line) :
      RequestEnd id c (Reply.parse id line,
        { c with link := { c.link with unread := rest, sent := c.link.sent ++ requestLine id } })

theorem requestEnd (id : ObjectId) (c : Channel ReplyStream) :
    RequestEnd id c (c.request transport id) := by
  have hsend : transport.send (requestLine id) c.link = c.link.send (requestLine id) := rfl
  have hread (s : ReplyStream) : transport.readLine s = s.readLine := rfl
  unfold request
  rw [hsend, ReplyStream.send]
  by_cases hclosed : c.link.isClosed = true
  · rw [if_pos hclosed]
    exact .failed nofun (List.suffix_refl _)
  rw [if_neg hclosed]
  by_cases hrefuses : c.link.refusesInput = true
  · rw [if_pos hrefuses]
    exact .failed nofun (List.suffix_refl _)
  rw [if_neg hrefuses]
  dsimp only
  rw [hread, ReplyStream.readLine, if_neg hclosed]
  cases hcut : Bytes.cut Bytes.lineFeed c.link.unread with
  | some found =>
      obtain ⟨hunread, hline⟩ := Bytes.cut_eq_some_iff.mp hcut
      simp only [List.getLast?_append, List.getLast?_singleton, Option.some_or, if_true,
        List.dropLast_concat]
      exact .line hunread hline
  | none =>
      have hend := Bytes.cut_eq_none_iff.mp hcut
      by_cases hbreaks : c.link.breaksOff = true
      · simp only [hbreaks, if_true]
        exact .failed nofun List.nil_suffix
      · have hlast : c.link.unread.getLast? ≠ some Bytes.lineFeed :=
          fun hlast => hend (List.mem_of_getLast? hlast)
        rw [if_neg hbreaks]
        dsimp only
        rw [if_neg hlast]
        exact .cutOff hend List.nil_suffix

variable {c' : Channel ReplyStream} {fault : Fault}

theorem request_suffix {answer : Except Fault Reply} (h : c.request transport id = (answer, c')) :
    c'.link.unread <:+ c.link.unread := by
  have hend := requestEnd id c
  rw [h] at hend
  generalize hresult : (answer, c') = result at hend
  cases hend with
  | failed _ hsuffix =>
      obtain ⟨-, rfl⟩ := Prod.mk.inj hresult
      exact hsuffix
  | cutOff _ hsuffix =>
      obtain ⟨-, rfl⟩ := Prod.mk.inj hresult
      exact hsuffix
  | line hunread _ =>
      obtain ⟨-, rfl⟩ := Prod.mk.inj hresult
      rw [hunread]
      exact (List.suffix_cons _ _).trans (List.suffix_append _ _)

theorem leads_of_line {kind : ObjectKind} {digits replies : Bytes} (hkind : kind ∈ ObjectKind.proper)
    (hdigits : Bytes.isDigits digits = true) (hline : line = Reply.statement id kind digits)
    (hreplies : replies = line ++ Bytes.lineFeed :: rest) : Reply.Leads id kind digits replies := by
  refine ⟨hkind, hdigits, rest, ?_⟩
  rw [hreplies, hline, List.append_assoc, List.singleton_append]

/-- A header comes from a reply line that states it. -/
theorem request_header {kind : ObjectKind} {size : Nat}
    (h : c.request transport id = (.ok (.header kind size), c')) :
    ∃ digits, Reply.Leads id kind digits c.link.unread ∧ Bytes.value 10 digits = size := by
  have hend := requestEnd id c
  rw [h] at hend
  generalize hanswer : (Except.ok (.header kind size) : Except Fault Reply) = answer at hend
  cases hend with
  | failed => cases hanswer
  | cutOff => cases hanswer
  | @line line rest hunread _ =>
      have hread := Reply.lineEnd id line
      rw [← hanswer] at hread
      cases hread with
      | header hkind hdigits hline => exact ⟨_, leads_of_line hkind hdigits hline hunread, rfl⟩

/-- A request fails without a report only if the reply line states a size of too many
digits. -/
theorem request_unreported (h : c.request transport id = (.error fault, c'))
    (hreported : fault.isReported = false) :
    ∃ kind digits, Reply.Leads id kind digits c.link.unread ∧
      Text.Decimal.digitLimit < digits.length := by
  have hend := requestEnd id c
  rw [h] at hend
  generalize hanswer : (Except.error fault : Except Fault Reply) = answer at hend
  cases hend with
  | failed =>
      obtain rfl := Except.error.inj hanswer
      cases hreported
  | cutOff =>
      obtain rfl := Except.error.inj hanswer
      cases hreported
  | @line line rest hunread _ =>
      have hread := Reply.lineEnd id line
      rw [← hanswer] at hread
      cases hread with
      | endless hkind hdigits hline hlength =>
          exact ⟨_, _, leads_of_line hkind hdigits hline hunread, hlength⟩
      | broken => cases hreported

theorem longestRead_lt_pow : longestRead < 10 ^ Text.Decimal.digitLimit := by
  have hlongest : longestRead < 10 ^ 19 := by decide
  have hpow : 10 ^ 19 ≤ 10 ^ Text.Decimal.digitLimit := by
    apply Nat.pow_le_pow_right
    · decide
    · decide
  exact Nat.lt_of_lt_of_le hlongest hpow

theorem longestRead_lt_of_not_writable {size : Int} (h : Text.Decimal.isWritable size = false) :
    longestRead < size.natAbs := by
  have hpow (k : Nat) : Nat.pow 10 k = 10 ^ k := rfl
  rw [Text.Decimal.isWritable, decide_eq_false_iff_not, Nat.not_lt, hpow] at h
  exact Nat.lt_of_lt_of_le longestRead_lt_pow h

theorem isReported_shortFault {name : String} {expected got : Int}
    (h : (shortFault name expected got).isReported = false) :
    Text.Decimal.isWritable expected = false := by
  unfold shortFault at h
  split at h
  · cases h
  · next hwritable => simpa using hwritable

theorem isReported_payloadFault {name : String} {cause : StreamFault}
    (h : (payloadFault name cause).isReported = false) : cause = .tooLong := by
  cases cause with
  | tooLong => rfl
  | readFailed => cases h
  | brokenPipe => cases h
  | closed => cases h

/-- Reading a payload takes a beginning of the replies, and fails without a report only if
more is asked for than one read can be asked for. -/
theorem readExactly_any {size : Int} {answer : Except Fault Bytes}
    (h : c.readExactly transport size = (answer, c')) :
    c'.link.unread <:+ c.link.unread ∧
      ∀ fault, answer = .error fault → fault.isReported = false → longestRead < size.natAbs := by
  obtain ⟨⟨k, asked, htaken⟩, hlong⟩ := collect_any size.toNat [] c.link
  have hsuffix : (collect transport size.toNat [] c.link).2.unread <:+ c.link.unread := by
    rw [htaken]
    exact List.drop_suffix k _
  unfold readExactly at h
  generalize collect transport size.toNat [] c.link = result at h hsuffix hlong
  obtain ⟨cause | got, link⟩ := result
  · obtain ⟨rfl, rfl⟩ := Prod.mk.inj h
    refine ⟨hsuffix, fun fault hfault hreported => ?_⟩
    obtain rfl := Except.error.inj hfault
    have htoNat := hlong (congrArg Except.error (isReported_payloadFault hreported))
    omega
  · dsimp only at h
    split at h
    · obtain ⟨rfl, rfl⟩ := Prod.mk.inj h
      exact ⟨hsuffix, nofun⟩
    · obtain ⟨rfl, rfl⟩ := Prod.mk.inj h
      refine ⟨hsuffix, fun fault hfault hreported => ?_⟩
      obtain rfl := Except.error.inj hfault
      exact longestRead_lt_of_not_writable (isReported_shortFault hreported)

/-- Passing over a payload takes a beginning of the replies, and fails without a report
only if its size cannot be written. -/
theorem skip_any {size : Int} {answer : Except Fault Unit}
    (h : c.skip transport size = (answer, c')) :
    c'.link.unread <:+ c.link.unread ∧
      ∀ fault, answer = .error fault → fault.isReported = false →
        Text.Decimal.isWritable size = false := by
  obtain ⟨⟨k, asked, htaken⟩, hshort⟩ := discard_any size.toNat c.link
  have hsuffix : (discard transport size.toNat c.link).2.unread <:+ c.link.unread := by
    rw [htaken]
    exact List.drop_suffix k _
  unfold skip at h
  generalize discard transport size.toNat c.link = result at h hsuffix hshort
  obtain ⟨cause | missing, link⟩ := result
  · obtain ⟨rfl, rfl⟩ := Prod.mk.inj h
    refine ⟨hsuffix, fun fault hfault hreported => ?_⟩
    obtain rfl := Except.error.inj hfault
    exact absurd (congrArg Except.error (isReported_payloadFault hreported)) hshort
  · dsimp only at h
    split at h
    · obtain ⟨rfl, rfl⟩ := Prod.mk.inj h
      exact ⟨hsuffix, nofun⟩
    · obtain ⟨rfl, rfl⟩ := Prod.mk.inj h
      refine ⟨hsuffix, fun fault hfault hreported => ?_⟩
      obtain rfl := Except.error.inj hfault
      exact isReported_shortFault hreported

end GitCensus.Channel
