import GitCensus.Proofs.CatFile.Ends
import GitCensus.Proofs.CatFile.Session
import GitCensus.Proofs.Store.Fixed
/-!
# What servers answer

A client in step with servers of a map is answered from the map, and alike each time,
whatever the lengths of the objects are.  After an answer that is not a fault it is in
step again.
-/

namespace GitCensus.CatFile

open Channel (ReplyStream Reply longestRead)

variable {m : ObjectMap} {id : ObjectId} {o : StoredObject}

/-! ## How much reads return -/

namespace Server

theorem portion_send (bs : Bytes) (s : Server) :
    (transport.send bs s).2.replies.portion = s.replies.portion := by
  simp only [transport, send, ReplyStream.send]
  split_ifs <;> rfl

theorem portion_readLine (s : Server) :
    (transport.readLine s).2.replies.portion = s.replies.portion := by
  simp only [transport, ReplyStream.readLine]
  split_ifs
  all_goals try rfl
  all_goals split <;> rfl

end Server

variable {c : Channel Server}

theorem portion_request (id : ObjectId) (c : Channel Server) :
    (c.request Server.transport id).2.link.replies.portion = c.link.replies.portion := by
  have hsend := Server.portion_send (Channel.requestLine id) c.link
  unfold Channel.request
  generalize Server.transport.send (Channel.requestLine id) c.link = sent at hsend
  obtain ⟨cause | ⟨⟩, link⟩ := sent
  · exact hsend
  have hread := Server.portion_readLine link
  dsimp only
  generalize Server.transport.readLine link = got at hread
  obtain ⟨cause | line, link'⟩ := got
  · exact hread.trans hsend
  dsimp only
  split_ifs <;> exact hread.trans hsend

theorem portion_readExactly (size : Int) (c : Channel Server) :
    (c.readExactly Server.transport size).2.link.replies.portion = c.link.replies.portion := by
  obtain ⟨⟨k, asked, htaken⟩, -⟩ := Channel.collect_any size.toNat [] c.link.replies
  have hlift := Channel.collect_lift (Server.read_replies c.link) size.toNat [] c.link.replies
  have hportion : (Channel.collect Server.transport size.toNat [] c.link).2.replies.portion =
      c.link.replies.portion := by
    rw [show c.link = { c.link with replies := c.link.replies } from rfl, hlift, htaken]
  unfold Channel.readExactly
  generalize Channel.collect Server.transport size.toNat [] c.link = got at hportion
  obtain ⟨cause | got, link⟩ := got
  · exact hportion
  dsimp only
  split_ifs <;> exact hportion

theorem readExactly_tooLong (hopen : c.link.replies.isClosed = false)
    (hwhole : ∀ asked, c.link.replies.portion asked = none) {size : Int}
    (hlong : longestRead < size.toNat) :
    (c.readExactly Server.transport size).1 = .error .readTooLong := by
  have hlift := Channel.readExactly_lift (Server.read_replies c.link) size c.name c.link.replies
  exact (congrArg Prod.fst hlift).trans
    (Channel.readExactly_tooLong (c := ⟨c.name, c.link.replies⟩) hopen hwhole hlong)

/-! ## Answers -/

namespace Client

/-- What a client of servers of a map is told about an object. -/
def headerOf (m : ObjectMap) (id : ObjectId) : Except Fault Header :=
  match m.find? id with
  | none => .error (.missing id)
  | some o =>
    (Reply.readSize id (Text.Decimal.digits o.content.length)).map fun size => ⟨o.kind, size⟩

/-- What a client of servers of a map is told when it asks for a tree. -/
def payloadOf (m : ObjectMap) (id : ObjectId) : Except Fault Bytes :=
  match m.find? id with
  | none => .error (.missing id)
  | some o =>
    match Reply.readSize id (Text.Decimal.digits o.content.length) with
    | .error fault => .error fault
    | .ok _ =>
      if o.kind = .tree then
        if o.content.length < longestRead then .ok o.content else .error .readTooLong
      else .error (.wrongKind id o.kind.name ObjectKind.tree.name)

/-- The servers have answered all they were asked, all answers were read, and nothing but
the length of a read bounds what it returns. -/
structure Synced (m : ObjectMap) (c : Client Server) : Prop where
  inStep : ∃ headers payloads, c.InStep m headers payloads
  whole : ∀ asked, c.payloads.link.replies.portion asked = none

theorem Synced.connect (m : ObjectMap) :
    Synced m (.connect (Server.pair m).1 (Server.pair m).2) where
  inStep := ⟨[], [], ⟨Server.fresh_at nofun, Server.fresh_at nofun⟩⟩
  whole _ := rfl

variable {c : Client Server}

theorem portion_readTree {data : Bytes} (h : (c.readTree Server.transport id).1 = .ok data) :
    (c.readTree Server.transport id).2.payloads.link.replies.portion =
      c.payloads.link.replies.portion := by
  have hend := treeEnd Server.transport id c
  generalize c.readTree Server.transport id = result at hend h ⊢
  cases hend with
  | @tree size _ payloads _ hrequest hread _ =>
      have hrequested := portion_request id c.payloads
      rw [hrequest] at hrequested
      have hportion := portion_readExactly (size + 1) payloads
      rw [hread] at hportion
      exact hportion.trans hrequested
  | failed => cases h
  | missing => cases h
  | unread => cases h
  | unterminated => cases h
  | unskipped => cases h
  | other => cases h

theorem readTree_tooLong {link : Server} (hkind : o.kind = .tree)
    (hrequest : c.payloads.request Server.transport id =
      (.ok (.header o.kind o.content.length), { c.payloads with link }))
    (hopen : link.replies.isClosed = false) (hwhole : ∀ asked, link.replies.portion asked = none)
    (hlong : longestRead ≤ o.content.length) :
    (c.readTree Server.transport id).1 = .error .readTooLong := by
  have hlong' : longestRead < ((o.content.length : Int) + 1).toNat := by omega
  have hread := readExactly_tooLong (c := { c.payloads with link }) hopen hwhole hlong'
  simp only [readTree, hrequest, hkind, if_true]
  generalize Channel.readExactly _ _ _ = got at hread
  obtain ⟨answer, payloads'⟩ := got
  obtain rfl : answer = _ := hread
  rfl

variable (hm : ∀ {id o}, m.find? id = some o → o.kind ∈ ObjectKind.proper)
include hm

theorem readHeader_synced (id : ObjectId) (hc : c.Synced m) :
    (c.readHeader Server.transport id).1 = headerOf m id ∧
      ∀ header, headerOf m id = .ok header → (c.readHeader Server.transport id).2.Synced m := by
  obtain ⟨⟨headers, payloads, hstep⟩, hwhole⟩ := hc
  cases hfind : m.find? id with
  | none =>
      obtain ⟨link, hrequest, -⟩ := request_missing hstep.headers hfind
      simp [readHeader, hrequest, headerOf, hfind]
  | some o =>
      obtain ⟨link, hrequest, hs⟩ := request_stated (hm hfind) hstep.headers hfind
      simp only [readHeader, hrequest, headerOf, hfind]
      cases Reply.readSize id (Text.Decimal.digits o.content.length) with
      | error fault => exact ⟨rfl, fun _ h => by cases h⟩
      | ok size => exact ⟨rfl, fun _ _ => ⟨⟨_, _, hs, hstep.payloads⟩, hwhole⟩⟩

theorem readTree_synced (id : ObjectId) (hc : c.Synced m) :
    (c.readTree Server.transport id).1 = payloadOf m id ∧
      ∀ data, payloadOf m id = .ok data → (c.readTree Server.transport id).2.Synced m := by
  obtain ⟨⟨headers, payloads, hstep⟩, hwhole⟩ := hc
  cases hfind : m.find? id with
  | none =>
      obtain ⟨link, hrequest, -⟩ := request_missing hstep.payloads hfind
      simp [readTree, hrequest, payloadOf, hfind]
  | some o =>
      obtain ⟨link, hrequest, hs⟩ := request_stated (hm hfind) hstep.payloads hfind
      simp only [payloadOf, hfind]
      cases hsize : Reply.readSize id (Text.Decimal.digits o.content.length) with
      | error fault =>
          rw [hsize] at hrequest
          simp only [readTree, hrequest, Except.map]
          exact ⟨trivial, fun _ h => by cases h⟩
      | ok size =>
          obtain rfl : o.content.length = size := by
            rw [← Text.Decimal.value_digits o.content.length, Reply.value_of_readSize hsize]
          rw [hsize] at hrequest
          -- only the length of the content decides whether the payload of a tree is read
          by_cases hkind : o.kind = .tree
          · by_cases hshort : o.content.length < longestRead
            · obtain ⟨link', hread, hs'⟩ := readTree_of_tree hkind hshort hrequest hs
              have hportion := portion_readTree (congrArg Prod.fst hread)
              rw [hread] at hportion ⊢
              dsimp only
              rw [if_pos hkind, if_pos hshort]
              exact ⟨rfl, fun _ _ => ⟨⟨_, _, hstep.headers, hs'⟩, hportion ▸ hwhole⟩⟩
            · have hportion := portion_request id c.payloads
              rw [hrequest] at hportion
              dsimp only
              rw [if_pos hkind, if_neg hshort]
              exact ⟨readTree_tooLong hkind hrequest hs.flowing.isOpen (hportion ▸ hwhole)
                (Nat.not_lt.mp hshort), fun _ h => by cases h⟩
          · obtain ⟨link', hread, -⟩ := readTree_of_other hkind hrequest hs
            rw [hread]
            dsimp only
            rw [if_neg hkind]
            exact ⟨rfl, fun _ h => by cases h⟩

/-- Over the servers of a map a client is a store that does not change. -/
theorem store_steady : (store Server.transport).Steady (Synced m) where
  header id hc hc' :=
    (readHeader_synced hm id hc').1.trans (readHeader_synced hm id hc).1.symm
  tree id hc hc' := (readTree_synced hm id hc').1.trans (readTree_synced hm id hc).1.symm
  keepsHeader {c id header} hc hanswer := by
    obtain ⟨heq, hkeeps⟩ := readHeader_synced hm id hc
    exact hkeeps header (heq.symm.trans hanswer)
  keepsTree {c id data} hc hanswer := by
    obtain ⟨heq, hkeeps⟩ := readTree_synced hm id hc
    exact hkeeps data (heq.symm.trans hanswer)

end Client

end GitCensus.CatFile
