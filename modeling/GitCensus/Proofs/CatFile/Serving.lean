import GitCensus.CatFile.Client
import GitCensus.CatFile.Server
import GitCensus.Proofs.Channel.Exchange
/-!
# A client in step with its servers

Between two requests a server has no line begun and the client has read every reply.
Each request is answered as the object map says and ends in such a state again,
however the replies are portioned.
-/

namespace GitCensus

open Channel (ReplyStream Reply requestLine longestRead)
open Text (Decimal.digitLimit)

/-- The objects are of the four kinds, state the length of their content as their size,
and are short enough for their content and a line feed to be read at once. -/
def ObjectMap.Servable (m : ObjectMap) : Prop :=
  ∀ {id o}, m.find? id = some o → o.kind ∈ ObjectKind.proper ∧ o.size = o.content.length ∧
    o.content.length < longestRead

namespace CatFile

variable {m : ObjectMap} {withContent : Bool} {asked : List ObjectId} {ahead data rest : Bytes}
  {id : ObjectId} {o : StoredObject}

namespace Server

/-- A server of a map that was asked for objects and has these replies to be read. -/
structure At (m : ObjectMap) (withContent : Bool) (asked : List ObjectId) (ahead : Bytes)
    (s : Server) : Prop where
  objects : s.objects = m
  content : s.withContent = withContent
  line : s.line = []
  unread : s.replies.unread = ahead
  sent : s.replies.sent = asked.flatMap requestLine
  accepts : s.replies.refusesInput = false
  flowing : s.replies.Flowing

/-- What follows the header of an object on a channel. -/
def payload (withContent : Bool) (o : StoredObject) : Bytes :=
  if withContent then o.content ++ [Bytes.lineFeed] else []

theorem reply_missing (hfind : m.find? id = none) :
    reply m withContent id.hexBytes = Reply.render id .missing ++ [Bytes.lineFeed] := by
  simp [reply, id.ofHexBytes_hexBytes, hfind, Reply.render]

theorem reply_found (hfind : m.find? id = some o) :
    reply m withContent id.hexBytes =
      Reply.render id (.header o.kind o.content.length) ++
        Bytes.lineFeed :: payload withContent o := by
  simp [reply, id.ofHexBytes_hexBytes, hfind, payload]

theorem send_requestLine {s : Server} (id : ObjectId) (hs : s.At m withContent asked []) :
    ∃ s', transport.send (requestLine id) s = (.ok (), s') ∧
      s'.At m withContent (asked ++ [id]) (reply m withContent id.hexBytes) := by
  have hsend : s.replies.send (requestLine id) =
      (.ok (), { s.replies with sent := s.replies.sent ++ requestLine id }) := by
    rw [ReplyStream.send, if_neg (by simp [hs.flowing.isOpen]), if_neg (by simp [hs.accepts])]
  have hpieces : Bytes.splitOn Bytes.lineFeed (s.line ++ requestLine id) = [id.hexBytes, []] := by
    rw [hs.line, List.nil_append, requestLine, Bytes.splitOn_append id.lineFeed_notMem_hexBytes]
    rfl
  have hmade : transport.send (requestLine id) s = (.ok (), { s with
      replies := { s.replies with
        unread := s.replies.unread ++ reply s.objects s.withContent id.hexBytes
        sent := s.replies.sent ++ requestLine id }
      line := [] }) := by
    simp [transport, send, hsend, hpieces]
  refine ⟨_, hmade, hs.objects, hs.content, rfl, ?_, ?_, hs.accepts, hs.flowing.isOpen,
    hs.flowing.portion_ne_zero⟩
  · rw [hs.unread, hs.objects, hs.content, List.nil_append]
  · rw [hs.sent, List.flatMap_append, List.flatMap_singleton]

theorem readLine_at {s : Server} {line : Bytes} (hline : Bytes.lineFeed ∉ line)
    (hs : s.At m withContent asked (line ++ Bytes.lineFeed :: rest)) :
    ∃ s', transport.readLine s = (.ok (line ++ [Bytes.lineFeed]), s') ∧
      s'.At m withContent asked rest := by
  have hread : s.replies.readLine =
      (.ok (line ++ [Bytes.lineFeed]), { s.replies with unread := rest }) := by
    rw [ReplyStream.readLine, if_neg (by simp [hs.flowing.isOpen]), hs.unread,
      Bytes.cut_append hline]
  have hmade : transport.readLine s = (.ok (line ++ [Bytes.lineFeed]),
      { s with replies := { s.replies with unread := rest } }) := by
    simp [transport, hread]
  exact ⟨_, hmade, hs.objects, hs.content, hs.line, rfl, hs.sent, hs.accepts, hs.flowing.isOpen,
    hs.flowing.portion_ne_zero⟩

/-- A server's replies are read as those of its stream. -/
theorem read_replies (s : Server) (n : Nat) (replies : ReplyStream) :
    transport.read n { s with replies } =
      ((ReplyStream.transport.read n replies).1,
        { s with replies := (ReplyStream.transport.read n replies).2 }) := rfl

theorem At.of_taken {s : Server} {replies : ReplyStream}
    (hs : s.At m withContent asked (data ++ rest))
    (htaken : s.replies.Taken data.length replies) :
    ({ s with replies } : Server).At m withContent asked rest := by
  have hflowing := hs.flowing.of_taken htaken
  obtain ⟨_, rfl⟩ := htaken
  have hunread : s.replies.unread.drop data.length = rest := by
    rw [hs.unread, List.drop_left]
  exact ⟨hs.objects, hs.content, hs.line, hunread, hs.sent, hs.accepts, hflowing⟩

end Server

variable {c : Channel Server}

theorem readExactly_at (hs : c.link.At m withContent asked (data ++ rest))
    (hlength : data.length ≤ longestRead) :
    ∃ link, c.readExactly Server.transport data.length = (.ok data, { c with link }) ∧
      link.At m withContent asked rest := by
  have hunread : (⟨c.name, c.link.replies⟩ : Channel ReplyStream).link.unread = data ++ rest :=
    hs.unread
  obtain ⟨replies, htaken, hread⟩ := Channel.readExactly_append hs.flowing hunread hlength
  have hlift := Channel.readExactly_lift (Server.read_replies c.link) data.length c.name
    c.link.replies
  rw [hread] at hlift
  exact ⟨_, hlift, hs.of_taken htaken⟩

theorem skip_at (hs : c.link.At m withContent asked (data ++ rest)) :
    ∃ link, c.skip Server.transport data.length = (.ok (), { c with link }) ∧
      link.At m withContent asked rest := by
  have hunread : (⟨c.name, c.link.replies⟩ : Channel ReplyStream).link.unread = data ++ rest :=
    hs.unread
  obtain ⟨replies, htaken, hread⟩ := Channel.skip_append hs.flowing hunread
  have hlift := Channel.skip_lift (Server.read_replies c.link) data.length c.name c.link.replies
  rw [hread] at hlift
  exact ⟨_, hlift, hs.of_taken htaken⟩

theorem request_missing (hs : c.link.At m withContent asked []) (hfind : m.find? id = none) :
    ∃ link, c.request Server.transport id = (.ok .missing, { c with link }) ∧
      link.At m withContent (asked ++ [id]) [] := by
  obtain ⟨link, hsend, hsent⟩ := Server.send_requestLine id hs
  rw [Server.reply_missing hfind] at hsent
  obtain ⟨link', hread, hs'⟩ := Server.readLine_at Reply.lineFeed_notMem_missing hsent
  have hrequest := Channel.request_of_line hsend hread
  rw [Reply.parse_missing] at hrequest
  exact ⟨link', hrequest, hs'⟩

theorem request_stated (hkind : o.kind ∈ ObjectKind.proper)
    (hs : c.link.At m withContent asked []) (hfind : m.find? id = some o) :
    ∃ link, c.request Server.transport id =
        ((Reply.readSize id (Text.Decimal.digits o.content.length)).map (.header o.kind),
          { c with link }) ∧
      link.At m withContent (asked ++ [id]) (Server.payload withContent o) := by
  have hdigits := Text.Decimal.isDigits_digits o.content.length
  obtain ⟨link, hsend, hsent⟩ := Server.send_requestLine id hs
  rw [Server.reply_found hfind, Reply.render_header] at hsent
  obtain ⟨link', hread, hs'⟩ :=
    Server.readLine_at (Reply.lineFeed_notMem_statement hkind hdigits) hsent
  have hrequest := Channel.request_of_line hsend hread
  rw [Reply.parse_statement hkind hdigits] at hrequest
  exact ⟨link', hrequest, hs'⟩

theorem request_found (hm : m.Servable) (hs : c.link.At m withContent asked [])
    (hfind : m.find? id = some o) :
    ∃ link, c.request Server.transport id =
        (.ok (.header o.kind o.content.length), { c with link }) ∧
      link.At m withContent (asked ++ [id]) (Server.payload withContent o) := by
  obtain ⟨hkind, -, hlength⟩ := hm hfind
  obtain ⟨link, hrequest, hs'⟩ := request_stated hkind hs hfind
  rw [Reply.readSize_digits (Nat.lt_trans hlength Channel.longestRead_lt_pow)] at hrequest
  exact ⟨link, hrequest, hs'⟩

namespace Client

/-- Both servers of a map have answered all they were asked, and all answers were read. -/
structure InStep (m : ObjectMap) (headers payloads : List ObjectId) (c : Client Server) : Prop where
  headers : c.headers.link.At m false headers []
  payloads : c.payloads.link.At m true payloads []

variable {c : Client Server} {headers payloads : List ObjectId}

theorem readHeader_inStep (id : ObjectId) (hm : m.Servable) (hc : c.InStep m headers payloads) :
    ∃ c', c.readHeader Server.transport id = (m.readHeader id, c') ∧
      c'.InStep m (headers ++ [id]) payloads := by
  cases hfind : m.find? id with
  | none =>
      obtain ⟨link, hrequest, hs⟩ := request_missing hc.headers hfind
      refine ⟨{ c with headers := { c.headers with link } }, ?_, hs, hc.payloads⟩
      simp only [readHeader, hrequest, ObjectMap.readHeader, hfind]
  | some o =>
      obtain ⟨link, hrequest, hs⟩ := request_found hm hc.headers hfind
      refine ⟨{ c with headers := { c.headers with link } }, ?_, hs, hc.payloads⟩
      simp only [readHeader, hrequest, ObjectMap.readHeader, hfind, StoredObject.header,
        (hm hfind).2.1]

theorem readTree_of_tree {link : Server} (hkind : o.kind = .tree)
    (hlength : o.content.length < longestRead)
    (hrequest : c.payloads.request Server.transport id =
      (.ok (.header o.kind o.content.length), { c.payloads with link }))
    (hs : link.At m true asked (Server.payload true o)) :
    ∃ link', c.readTree Server.transport id =
        (.ok o.content, { c with payloads := { c.payloads with link := link' } }) ∧
      link'.At m true asked [] := by
  have hpayload : Server.payload true o = (o.content ++ [Bytes.lineFeed]) ++ [] := by
    simp [Server.payload]
  have hsize : (o.content.length : Int) + 1 = (o.content ++ [Bytes.lineFeed]).length := by
    simp
  have hle : (o.content ++ [Bytes.lineFeed]).length ≤ longestRead := by
    simp
    omega
  rw [hpayload] at hs
  obtain ⟨link', hread, hs'⟩ := readExactly_at (c := { c.payloads with link }) hs hle
  refine ⟨link', ?_, hs'⟩
  simp only [readTree, hrequest, hkind, hsize, hread]
  simp

theorem readTree_of_other {link : Server} (hkind : o.kind ≠ .tree)
    (hrequest : c.payloads.request Server.transport id =
      (.ok (.header o.kind o.content.length), { c.payloads with link }))
    (hs : link.At m true asked (Server.payload true o)) :
    ∃ link', c.readTree Server.transport id =
        (.error (.wrongKind id o.kind.name ObjectKind.tree.name),
          { c with payloads := { c.payloads with link := link' } }) ∧
      link'.At m true asked [] := by
  have hpayload : Server.payload true o = (o.content ++ [Bytes.lineFeed]) ++ [] := by
    simp [Server.payload]
  have hsize : (o.content.length : Int) + 1 = (o.content ++ [Bytes.lineFeed]).length := by
    simp
  rw [hpayload] at hs
  obtain ⟨link', hskip, hs'⟩ := skip_at (c := { c.payloads with link }) hs
  refine ⟨link', ?_, hs'⟩
  simp only [readTree, hrequest, hkind, hsize, hskip, if_false]

theorem readTree_inStep (id : ObjectId) (hm : m.Servable) (hc : c.InStep m headers payloads) :
    ∃ c', c.readTree Server.transport id = (m.readTree id, c') ∧
      c'.InStep m headers (payloads ++ [id]) := by
  cases hfind : m.find? id with
  | none =>
      obtain ⟨link, hrequest, hs⟩ := request_missing hc.payloads hfind
      refine ⟨{ c with payloads := { c.payloads with link } }, ?_, hc.headers, hs⟩
      simp only [readTree, hrequest, ObjectMap.readTree, hfind]
  | some o =>
      obtain ⟨link, hrequest, hs⟩ := request_found hm hc.payloads hfind
      by_cases hkind : o.kind = .tree
      · obtain ⟨link', hread, hs'⟩ := readTree_of_tree hkind (hm hfind).2.2 hrequest hs
        refine ⟨{ c with payloads := { c.payloads with link := link' } }, ?_, hc.headers, hs'⟩
        rw [hread, ObjectMap.readTree, hfind]
        simp only [hkind, if_true]
      · obtain ⟨link', hread, hs'⟩ := readTree_of_other hkind hrequest hs
        refine ⟨{ c with payloads := { c.payloads with link := link' } }, ?_, hc.headers, hs'⟩
        rw [hread, ObjectMap.readTree, hfind]
        simp only [hkind, if_false]

end Client

end CatFile

end GitCensus
