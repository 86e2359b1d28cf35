import GitCensus.Proofs.CatFile.Ends
import GitCensus.Proofs.Channel.Exchange
import GitCensus.Proofs.Store.Alike
/-!
# Faults that are not reported

Over any two streams of replies, a client answers every request or fails with a sizing
error, but for one thing: a reply line may state a size that cannot be used.  Then the
fault is one of the limits of numbers and reads, which nothing turns into a sizing error.
-/

namespace GitCensus

def Request.id : Request → ObjectId
  | .header id => id
  | .tree id => id

/-- The answer is a fault that is not reported as a sizing error. -/
def Answer.Unreported (a : Answer) : Prop := ∃ fault, a.fault? = some fault ∧ fault.isReported = false

namespace CatFile

open Channel (ReplyStream Reply longestRead)
open Channel.ReplyStream (transport)

variable {c : Client ReplyStream} {id : ObjectId} {request : Request} {fault : Fault}

/-- A size cannot be used for a request if it has too many digits to be read, or if so
many bytes and one more are too many for one read of a tree, or have too many digits to
be written when another payload ends early. -/
inductive Unusable (kind : ObjectKind) (digits : Bytes) : Request → Prop
  | toRead {request : Request} (h : Text.Decimal.digitLimit < digits.length) :
      Unusable kind digits request
  | tree {id : ObjectId} (hkind : kind = .tree) (h : longestRead ≤ Bytes.value 10 digits) :
      Unusable kind digits (.tree id)
  | toWrite {id : ObjectId} (hkind : kind ≠ .tree)
      (h : Text.Decimal.isWritable (Bytes.value 10 digits + 1) = false) :
      Unusable kind digits (.tree id)

/-- The replies begin with a line that states a size unusable for the request. -/
def StatesUnusable (request : Request) (replies : Bytes) : Prop :=
  ∃ kind digits, Reply.Leads request.id kind digits replies ∧ Unusable kind digits request

namespace Client

def link (c : Client ReplyStream) : Request → ReplyStream
  | .header _ => c.headers.link
  | .tree _ => c.payloads.link

theorem readHeader_unreported (h : (c.readHeader transport id).1 = .error fault)
    (hreported : fault.isReported = false) : StatesUnusable (.header id) c.headers.link.unread := by
  have hend := headerEnd transport id c
  generalize c.readHeader transport id = result at h hend
  cases hend with
  | failed hrequest =>
      obtain rfl := Except.error.inj h
      obtain ⟨kind, digits, hleads, hlength⟩ :=
        Channel.request_unreported hrequest hreported
      exact ⟨kind, digits, hleads, .toRead hlength⟩
  | missing =>
      obtain rfl := Except.error.inj h
      cases hreported
  | header => cases h

theorem readTree_unreported (h : (c.readTree transport id).1 = .error fault)
    (hreported : fault.isReported = false) : StatesUnusable (.tree id) c.payloads.link.unread := by
  have hend := treeEnd transport id c
  generalize c.readTree transport id = result at h hend
  cases hend with
  | failed hrequest =>
      obtain rfl := Except.error.inj h
      obtain ⟨kind, digits, hleads, hlength⟩ :=
        Channel.request_unreported hrequest hreported
      exact ⟨kind, digits, hleads, .toRead hlength⟩
  | missing =>
      obtain rfl := Except.error.inj h
      cases hreported
  | unread hrequest hread =>
      obtain rfl := Except.error.inj h
      obtain ⟨digits, hleads, rfl⟩ := Channel.request_header hrequest
      have hlong := (Channel.readExactly_any hread).2 _ rfl hreported
      exact ⟨.tree, digits, hleads, .tree rfl (by omega)⟩
  | unterminated =>
      obtain rfl := Except.error.inj h
      cases hreported
  | tree => cases h
  | unskipped hrequest hkind hskip =>
      obtain rfl := Except.error.inj h
      obtain ⟨digits, hleads, rfl⟩ := Channel.request_header hrequest
      have hlong := (Channel.skip_any hskip).2 _ rfl hreported
      exact ⟨_, digits, hleads, .toWrite hkind hlong⟩
  | other =>
      obtain rfl := Except.error.inj h
      cases hreported

theorem ask_header (id : ObjectId) (c : Client ReplyStream) :
    (store transport).ask (.header id) c =
      (.header (c.readHeader transport id).1, (c.readHeader transport id).2) := rfl

theorem ask_tree (id : ObjectId) (c : Client ReplyStream) :
    (store transport).ask (.tree id) c =
      (.tree (c.readTree transport id).1, (c.readTree transport id).2) := rfl

theorem ask_unreported (h : ((store transport).ask request c).1.Unreported) :
    StatesUnusable request (c.link request).unread := by
  obtain ⟨fault, hfault, hreported⟩ := h
  cases request with
  | header id =>
      rw [ask_header] at hfault
      cases hread : (c.readHeader transport id).1 with
      | ok header =>
          rw [hread] at hfault
          cases hfault
      | error cause =>
          rw [hread] at hfault
          obtain rfl := Option.some.inj hfault
          exact readHeader_unreported hread hreported
  | tree id =>
      rw [ask_tree] at hfault
      cases hread : (c.readTree transport id).1 with
      | ok data =>
          rw [hread] at hfault
          cases hfault
      | error cause =>
          rw [hread] at hfault
          obtain rfl := Option.some.inj hfault
          exact readTree_unreported hread hreported

theorem readHeader_suffix (id : ObjectId) (c : Client ReplyStream) :
    (c.readHeader transport id).2.headers.link.unread <:+ c.headers.link.unread ∧
      (c.readHeader transport id).2.payloads = c.payloads := by
  have hend := headerEnd transport id c
  generalize c.readHeader transport id = result at hend
  cases hend with
  | failed hrequest => exact ⟨Channel.request_suffix hrequest, rfl⟩
  | missing hrequest => exact ⟨Channel.request_suffix hrequest, rfl⟩
  | header hrequest => exact ⟨Channel.request_suffix hrequest, rfl⟩

theorem readTree_suffix (id : ObjectId) (c : Client ReplyStream) :
    (c.readTree transport id).2.payloads.link.unread <:+ c.payloads.link.unread ∧
      (c.readTree transport id).2.headers = c.headers := by
  have hend := treeEnd transport id c
  generalize c.readTree transport id = result at hend
  cases hend with
  | failed hrequest => exact ⟨Channel.request_suffix hrequest, rfl⟩
  | missing hrequest => exact ⟨Channel.request_suffix hrequest, rfl⟩
  | unread hrequest hread =>
      have hpayload := (Channel.readExactly_any hread).1
      exact ⟨hpayload.trans (Channel.request_suffix hrequest), rfl⟩
  | unterminated hrequest hread =>
      have hpayload := (Channel.readExactly_any hread).1
      exact ⟨hpayload.trans (Channel.request_suffix hrequest), rfl⟩
  | tree hrequest hread =>
      have hpayload := (Channel.readExactly_any hread).1
      exact ⟨hpayload.trans (Channel.request_suffix hrequest), rfl⟩
  | unskipped hrequest _ hskip =>
      have hpayload := (Channel.skip_any hskip).1
      exact ⟨hpayload.trans (Channel.request_suffix hrequest), rfl⟩
  | other hrequest _ hskip =>
      have hpayload := (Channel.skip_any hskip).1
      exact ⟨hpayload.trans (Channel.request_suffix hrequest), rfl⟩

/-- What is left to be read after a request is the end of what there was before. -/
theorem ask_suffix (request channel : Request) (c : Client ReplyStream) :
    (((store transport).ask request c).2.link channel).unread <:+ (c.link channel).unread := by
  cases request with
  | header id =>
      obtain ⟨hheaders, hpayloads⟩ := readHeader_suffix id c
      cases channel with
      | header _ => exact hheaders
      | tree _ =>
          rw [ask_header, link, hpayloads]
          exact List.suffix_refl _
  | tree id =>
      obtain ⟨hpayloads, hheaders⟩ := readTree_suffix id c
      cases channel with
      | header _ =>
          rw [ask_tree, link, hheaders]
          exact List.suffix_refl _
      | tree _ => exact hpayloads

theorem converse_suffix (next : List (Request × Answer) → Request) (n : Nat) (channel : Request) :
    (((store transport).converse next n c).2.link channel).unread <:+ (c.link channel).unread := by
  induction n with
  | zero => exact List.suffix_refl _
  | succ n ih =>
      rw [Store.converse_succ]
      exact (ask_suffix _ channel _).trans ih

theorem converse_unreported (next : List (Request × Answer) → Request) (n : Nat)
    {answer : Answer} (hmem : (request, answer) ∈ ((store transport).converse next n c).1)
    (h : answer.Unreported) :
    ∃ replies, replies <:+ (c.link request).unread ∧ StatesUnusable request replies := by
  induction n with
  | zero => cases hmem
  | succ n ih =>
      rw [Store.converse_succ] at hmem
      rcases List.mem_cons.mp hmem with heq | hmem
      -- the line was found where the session had come to in the stream
      · obtain ⟨rfl, rfl⟩ := Prod.mk.inj heq
        exact ⟨_, converse_suffix next n _, ask_unreported h⟩
      · exact ih hmem

/-- An open stream that delivers all that is asked for, ends without a failure and is
short enough for its length to be written. -/
structure Plain (s : ReplyStream) : Prop where
  isOpen : s.isClosed = false
  accepts : s.refusesInput = false
  whole : ∀ asked, s.portion asked = none
  ends : s.breaksOff = false
  short : Text.Decimal.isWritable s.unread.length = true

theorem Plain.flowing {s : ReplyStream} (hs : Plain s) : s.Flowing :=
  ⟨hs.isOpen, fun asked hzero => by rw [hs.whole asked] at hzero; cases hzero⟩

variable {kind : ObjectKind} {digits : Bytes}

theorem readHeader_of_digits (hplain : Plain c.headers.link)
    (hleads : Reply.Leads id kind digits c.headers.link.unread)
    (hlength : Text.Decimal.digitLimit < digits.length) :
    (c.readHeader transport id).1 = .error (.digitsToRead digits.length) := by
  obtain ⟨rest, -, hrequest⟩ := Channel.request_of_leads hplain.isOpen hplain.accepts hleads
  rw [Reply.readSize_of_lt hleads.isDigits hlength] at hrequest
  simp [readHeader, hrequest, Except.map]

theorem readTree_of_digits (hplain : Plain c.payloads.link)
    (hleads : Reply.Leads id kind digits c.payloads.link.unread)
    (hlength : Text.Decimal.digitLimit < digits.length) :
    (c.readTree transport id).1 = .error (.digitsToRead digits.length) := by
  obtain ⟨rest, -, hrequest⟩ := Channel.request_of_leads hplain.isOpen hplain.accepts hleads
  rw [Reply.readSize_of_lt hleads.isDigits hlength] at hrequest
  simp [readTree, hrequest, Except.map]

theorem request_plain {channel : Channel ReplyStream} (hplain : Plain channel.link)
    (hleads : Reply.Leads id kind digits channel.link.unread)
    (hlength : digits.length ≤ Text.Decimal.digitLimit) :
    ∃ channel', channel.request transport id =
        (.ok (.header kind (Bytes.value 10 digits)), channel') ∧ Plain channel'.link := by
  obtain ⟨rest, hunread, hrequest⟩ :=
    Channel.request_of_leads hplain.isOpen hplain.accepts hleads
  rw [Reply.readSize_of_le hleads.isDigits hlength] at hrequest
  have hshort : Text.Decimal.isWritable rest.length = true := by
    have hle : rest.length ≤ channel.link.unread.length := by
      rw [hunread, List.length_append, List.length_cons]
      omega
    have hwritable := hplain.short
    rw [Text.Decimal.isWritable, decide_eq_true_eq] at hwritable ⊢
    omega
  exact ⟨_, hrequest, hplain.isOpen, hplain.accepts, hplain.whole, hplain.ends, hshort⟩

theorem readTree_of_long (hplain : Plain c.payloads.link)
    (hleads : Reply.Leads id .tree digits c.payloads.link.unread)
    (hlength : digits.length ≤ Text.Decimal.digitLimit)
    (hlong : longestRead ≤ Bytes.value 10 digits) :
    (c.readTree transport id).1 = .error .readTooLong := by
  obtain ⟨payloads, hrequest, hplain'⟩ := request_plain hplain hleads hlength
  have hread : (payloads.readExactly transport (Bytes.value 10 digits + 1)).1 =
      .error .readTooLong :=
    Channel.readExactly_tooLong hplain'.isOpen hplain'.whole (by omega)
  unfold readTree
  rw [hrequest]
  dsimp only
  rw [if_pos rfl]
  generalize payloads.readExactly transport (Bytes.value 10 digits + 1) = result at hread
  obtain ⟨answer, payloads'⟩ := result
  obtain rfl : answer = .error .readTooLong := hread
  rfl

theorem readTree_of_unwritable (hplain : Plain c.payloads.link)
    (hleads : Reply.Leads id kind digits c.payloads.link.unread) (hkind : kind ≠ .tree)
    (hlength : digits.length ≤ Text.Decimal.digitLimit)
    (hlong : Text.Decimal.isWritable (Bytes.value 10 digits + 1) = false) :
    (c.readTree transport id).1 = .error .digitsToWrite := by
  obtain ⟨payloads, hrequest, hplain'⟩ := request_plain hplain hleads hlength
  have hshort : (payloads.link.unread.length : Int) < Bytes.value 10 digits + 1 := by
    have hwritable := hplain'.short
    have hunwritable := hlong
    rw [Text.Decimal.isWritable, decide_eq_true_eq] at hwritable
    rw [Text.Decimal.isWritable, decide_eq_false_iff_not] at hunwritable
    omega
  have hskip := Channel.skip_short hplain'.flowing hplain'.ends hshort
  rw [Channel.shortFault, hlong, if_neg Bool.false_ne_true] at hskip
  unfold readTree
  rw [hrequest]
  dsimp only
  rw [if_neg hkind]
  generalize payloads.skip transport (Bytes.value 10 digits + 1) = result at hskip
  obtain ⟨answer, payloads'⟩ := result
  obtain rfl : answer = .error .digitsToWrite := hskip
  rfl

theorem ask_of_unusable (hplain : Plain (c.link request))
    (h : StatesUnusable request (c.link request).unread) :
    ((store transport).ask request c).1.Unreported := by
  obtain ⟨kind, digits, hleads, hunusable⟩ := h
  -- too many digits are refused before the kind matters, on both channels
  have hdigits (hlength : Text.Decimal.digitLimit < digits.length) :
      ((store transport).ask request c).1.Unreported := by
    refine ⟨.digitsToRead digits.length, ?_, rfl⟩
    cases request with
    | header id =>
        have hread : (c.readHeader transport id).1 = .error (.digitsToRead digits.length) :=
          readHeader_of_digits hplain hleads hlength
        rw [ask_header, hread]
        rfl
    | tree id =>
        have hread : (c.readTree transport id).1 = .error (.digitsToRead digits.length) :=
          readTree_of_digits hplain hleads hlength
        rw [ask_tree, hread]
        rfl
  rcases Nat.lt_or_ge Text.Decimal.digitLimit digits.length with hlength | hlength
  · exact hdigits hlength
  cases hunusable with
  | toRead hlength => exact hdigits hlength
  | @tree id hkind hlong =>
      subst hkind
      have hread : (c.readTree transport id).1 = .error .readTooLong :=
        readTree_of_long hplain hleads hlength hlong
      rw [ask_tree, hread]
      exact ⟨.readTooLong, rfl, rfl⟩
  | @toWrite id hkind hlong =>
      have hread : (c.readTree transport id).1 = .error .digitsToWrite :=
        readTree_of_unwritable hplain hleads hkind hlength hlong
      rw [ask_tree, hread]
      exact ⟨.digitsToWrite, rfl, rfl⟩

/-- Over any two streams and in every session, a request that fails without a report has
found a reply line that states a size unusable for it.  On a plain stream this is not only
possible: each such line has that effect. -/
theorem unreported_only_for_unusable_sizes (c : Client ReplyStream) :
    (∀ next n request answer, (request, answer) ∈ ((store transport).converse next n c).1 →
      answer.Unreported →
        ∃ replies, replies <:+ (c.link request).unread ∧ StatesUnusable request replies) ∧
    ∀ request, Plain (c.link request) →
      (((store transport).ask request c).1.Unreported ↔
        StatesUnusable request (c.link request).unread) :=
  ⟨fun next n _ _ hmem h => converse_unreported next n hmem h,
    fun _ hplain => ⟨ask_unreported, ask_of_unusable hplain⟩⟩

theorem Plain.of_unread {unread : Bytes} (h : unread.length ≤ longestRead) : Plain { unread } := by
  refine ⟨rfl, rfl, fun _ => rfl, rfl, ?_⟩
  cases hwritable : Text.Decimal.isWritable unread.length with
  | true => rfl
  | false =>
      have hlong := Channel.longestRead_lt_of_not_writable hwritable
      rw [Int.natAbs_natCast] at hlong
      omega

/-- A tree that is said to have as many bytes as one read can be asked for, which leaves
no room for its line feed. -/
theorem unreported_only_for_unusable_sizes_longest_tree :
    ∃ c : Client ReplyStream,
      c.payloads.link.unread =
        Reply.render .zero (.header .tree longestRead) ++ [Bytes.lineFeed] ∧
      ((store transport).converse (fun _ => .tree .zero) 1 c).1 =
        [(.tree .zero, .tree (.error .readTooLong))] ∧
      Plain (c.link (.tree .zero)) ∧ StatesUnusable (.tree .zero) c.payloads.link.unread := by
  let line := Reply.render .zero (.header .tree longestRead) ++ [Bytes.lineFeed]
  let c : Client ReplyStream := connect { unread := [] } { unread := line }
  have hdigits := Text.Decimal.isDigits_digits longestRead
  have hplain : Plain c.payloads.link := by
    apply Plain.of_unread
    decide
  have hleads : Reply.Leads .zero .tree (Text.Decimal.digits longestRead) c.payloads.link.unread :=
    ⟨by decide, hdigits, List.prefix_refl _⟩
  have hlength := Text.Decimal.length_digits_le (by decide) Channel.longestRead_lt_pow
  have hread : (c.readTree transport .zero).1 = .error .readTooLong :=
    readTree_of_long hplain hleads hlength (Nat.le_of_eq (Text.Decimal.value_digits longestRead).symm)
  have hlog : ((store transport).converse (fun _ => .tree .zero) 1 c).1 =
      [(.tree .zero, .tree (.error .readTooLong))] :=
    congrArg (fun answer => [(Request.tree .zero, Answer.tree answer)]) hread
  have hunreported : (Answer.tree (.error .readTooLong)).Unreported := ⟨.readTooLong, rfl, rfl⟩
  obtain ⟨hsession, hcall⟩ := unreported_only_for_unusable_sizes c
  obtain ⟨_, hsuffix, _⟩ := hsession (fun _ => .tree .zero) 1 (.tree .zero)
    (.tree (.error .readTooLong)) (by rw [hlog]; exact List.mem_singleton_self _) hunreported
  refine ⟨c, rfl, hlog, hplain, (hcall (.tree .zero) hplain).mp ?_⟩
  rw [ask_tree, hread]
  exact hunreported

/-- A blob whose size is said to have one digit more than can be read. -/
theorem header_with_endless_size_unreported :
    ∃ (c : Client ReplyStream) (id : ObjectId),
      c.headers.link.unread = Reply.statement id .blob
        (List.replicate (Text.Decimal.digitLimit + 1) 0x39) ++ [Bytes.lineFeed] ∧
      ((store transport).ask (.header id) c).1 =
        .header (.error (.digitsToRead (Text.Decimal.digitLimit + 1))) ∧
      ((store transport).ask (.header id) c).1.Unreported := by
  let id : ObjectId := ⟨List.replicate 20 0x12, rfl⟩
  let digits : Bytes := List.replicate (Text.Decimal.digitLimit + 1) 0x39
  let c : Client ReplyStream :=
    connect { unread := Reply.statement id .blob digits ++ [Bytes.lineFeed] } { unread := [] }
  have hcount : digits.length = Text.Decimal.digitLimit + 1 := List.length_replicate
  have hdigits : Bytes.isDigits digits = true := by
    simp [Bytes.isDigits, digits, Bytes.isDigit]
  have hplain : Plain c.headers.link := by
    have hname : (Bytes.ofAscii ObjectKind.blob.name).length = 4 := rfl
    apply Plain.of_unread
    simp only [Reply.statement, List.length_append, List.length_cons, List.length_nil,
      id.length_hexBytes, hname, hcount]
    decide
  have hleads : Reply.Leads id .blob digits c.headers.link.unread :=
    ⟨by decide, hdigits, List.prefix_refl _⟩
  have hread := readHeader_of_digits hplain hleads (by rw [hcount]; exact Nat.lt_succ_self _)
  rw [hcount] at hread
  refine ⟨c, id, rfl, ?_, ?_⟩
  · rw [ask_header, hread]
  · rw [ask_header, hread]
    exact ⟨_, rfl, rfl⟩

end Client

end CatFile

end GitCensus
