import GitCensus.Proofs.CatFile.Serving
import GitCensus.Proofs.Census.Alike
/-!
# Sessions with an object server

A client of two servers of a map answers every request as the map itself does, through
whole sessions and whatever the contents.  A census over it therefore comes to the same
results as over the map.
-/

namespace GitCensus.CatFile

open Channel (Reply requestLine)

variable {m : ObjectMap} {withContent : Bool} {headers payloads : List ObjectId}
  {c : Client Server}

/-- A server of a map before its first request, with a rule for how much reads return. -/
def Server.fresh (m : ObjectMap) (withContent : Bool) (portion : List Nat → Option Nat)
    (breaksOff : Bool) : Server where
  objects := m
  withContent := withContent
  replies := { unread := [], portion, breaksOff }

theorem Server.fresh_at {portion : List Nat → Option Nat} {breaksOff : Bool}
    (hportion : ∀ asked, portion asked ≠ some 0) :
    (fresh m withContent portion breaksOff).At m withContent [] [] :=
  ⟨rfl, rfl, rfl, rfl, rfl, rfl, rfl, hportion⟩

namespace Client

/-- The ids that a session asked for on one of the channels, in order. -/
def asked (channel : Request → Option ObjectId) (log : List (Request × Answer)) : List ObjectId :=
  log.reverse.filterMap fun exchange => channel exchange.1

theorem asked_cons {channel : Request → Option ObjectId} {request : Request} {answer : Answer}
    {log : List (Request × Answer)} :
    asked channel ((request, answer) :: log) = asked channel log ++ (channel request).toList := by
  rw [asked, List.reverse_cons, List.filterMap_append]
  cases hid : channel request with
  | none => simp [asked, hid]
  | some id => simp [asked, hid]

theorem ask_inStep (hm : m.Servable) (hc : c.InStep m headers payloads) (request : Request) :
    ((store Server.transport).ask request c).2.InStep m
      (headers ++ request.headerId?.toList) (payloads ++ request.treeId?.toList) := by
  cases request with
  | header id =>
      obtain ⟨c', hread, hc'⟩ := readHeader_inStep id hm hc
      simpa [Store.ask, store, hread, Request.headerId?, Request.treeId?] using hc'
  | tree id =>
      obtain ⟨c', hread, hc'⟩ := readTree_inStep id hm hc
      simpa [Store.ask, store, hread, Request.headerId?, Request.treeId?] using hc'

/-- After every request of a session all replies have been read. -/
theorem converse_inStep (hm : m.Servable) (hc : c.InStep m [] [])
    (next : List (Request × Answer) → Request) (n : Nat) :
    ((store Server.transport).converse next n c).2.InStep m
      (asked Request.headerId? ((store Server.transport).converse next n c).1)
      (asked Request.treeId? ((store Server.transport).converse next n c).1) := by
  induction n with
  | zero => exact hc
  | succ n ih =>
      rw [Store.converse_succ, asked_cons, asked_cons]
      exact ask_inStep hm ih _

theorem store_alike (hm : m.Servable) :
    (store Server.transport).Alike ObjectMap.store fun c m' =>
      m' = m ∧ ∃ headers payloads, c.InStep m headers payloads where
  header := by
    rintro c m id ⟨rfl, headers, payloads, hc⟩
    obtain ⟨c', hread, hc'⟩ := readHeader_inStep id hm hc
    have hanswer : (store Server.transport).readHeader id c = (m.readHeader id, c') := hread
    rw [hanswer]
    exact ⟨rfl, rfl, _, _, hc'⟩
  tree := by
    rintro c m id ⟨rfl, headers, payloads, hc⟩
    obtain ⟨c', hread, hc'⟩ := readTree_inStep id hm hc
    have hanswer : (store Server.transport).readTree id c = (m.readTree id, c') := hread
    rw [hanswer]
    exact ⟨rfl, rfl, _, _, hc'⟩

/-- A client of two servers of a map cannot be told from the map.  A rule for portions
sees all reads before it, so that every way of parting the replies is some rule's.  Every
session gets the map's answers, leaves no reply unread and has sent the lines of the ids
asked for; as the replies may break off at their end, no read went beyond them either.
Every row of census calls gets the same answers and tables. -/
theorem session_answers_as_map (hm : m.Servable) (portion portion' : List Nat → Option Nat)
    (hportion : ∀ asked, portion asked ≠ some 0) (hportion' : ∀ asked, portion' asked ≠ some 0)
    (breaksOff breaksOff' : Bool) :
    let c := connect (Server.fresh m false portion breaksOff)
      (Server.fresh m true portion' breaksOff')
    (∀ next n,
      let session := (store Server.transport).converse next n c
      session.1 = (ObjectMap.store.converse next n m).1 ∧
        session.2.headers.link.replies.unread = [] ∧
        session.2.payloads.link.replies.unread = [] ∧
        session.2.headers.link.replies.sent =
          (asked Request.headerId? session.1).flatMap requestLine ∧
        session.2.payloads.link.replies.sent =
          (asked Request.treeId? session.1).flatMap requestLine) ∧
    ∀ calls : List (Nat × Call),
      Census.performAll ObjectMap.store calls { store := m } =
        (Census.performAll (store Server.transport) calls { store := c }).map
          fun (answers, census) => (answers, census.withStore m) := by
  intro c
  have hc : c.InStep m [] [] := ⟨Server.fresh_at hportion, Server.fresh_at hportion'⟩
  have hstart : m = m ∧ ∃ headers payloads, c.InStep m headers payloads := ⟨rfl, [], [], hc⟩
  refine ⟨fun next n => ?_, fun calls => ?_⟩
  -- the map follows the client request by request, which is in step after each of them
  · have hlog := ((store_alike hm).converse hstart next n).1
    have hstep := converse_inStep hm hc next n
    exact ⟨hlog.symm, hstep.headers.unread, hstep.payloads.unread, hstep.headers.sent,
      hstep.payloads.sent⟩
  · have hsame := Census.performAll_same (c := { store := c }) (store_alike hm) calls hstart
    have hover : ({ store := c } : Census (Client Server)).withStore m = { store := m } := rfl
    rw [hover] at hsame
    generalize Census.performAll (store Server.transport) calls { store := c } = result at hsame ⊢
    generalize Census.performAll ObjectMap.store calls { store := m } = result' at hsame ⊢
    cases hsame with
    | none => rfl
    | some hsame =>
        obtain ⟨_, rfl, rfl, -⟩ := hsame
        rfl

/-- A blob whose content reads like the header of a reply, read one byte at a time from
servers that break off behind their last reply. -/
theorem session_answers_as_map_misleading :
    ∃ (m : ObjectMap) (blob : ObjectId) (c : Client Server) (next : List (Request × Answer) → Request),
      m.find? blob =
        some (.ofContent .blob (Reply.render .zero (.header .tree 7) ++ [Bytes.lineFeed])) ∧
      ((store Server.transport).converse next 2 c).1 =
        [(.tree .zero, .tree (.ok [])), (.tree blob, .tree (.error (.wrongKind blob "blob" "tree")))] ∧
      ((store Server.transport).converse next 2 c).2.payloads.link.replies.unread = [] := by
  let blob : ObjectId := ⟨List.replicate 20 1, rfl⟩
  let m : ObjectMap := [(.zero, .ofContent .tree []),
    (blob, .ofContent .blob (Reply.render .zero (.header .tree 7) ++ [Bytes.lineFeed]))]
  let next : List (Request × Answer) → Request := fun log => .tree (if log.isEmpty then blob else .zero)
  have hm : m.Servable := by
    intro id o hfind
    rcases List.mem_cons.mp (ObjectMap.mem_of_find? hfind) with heq | hmem
    · obtain ⟨-, rfl⟩ := Prod.mk.inj heq
      decide
    · obtain ⟨-, rfl⟩ := Prod.mk.inj (List.mem_singleton.mp hmem)
      decide
  have hmap : (ObjectMap.store.converse next 2 m).1 =
      [(.tree .zero, .tree (.ok [])), (.tree blob, .tree (.error (.wrongKind blob "blob" "tree")))] :=
    rfl
  have hsession := (session_answers_as_map hm (fun _ => some 1) (fun _ => some 1)
    (fun _ => nofun) (fun _ => nofun) true true).1 next 2
  exact ⟨m, blob, _, next, rfl, hsession.1.trans hmap, hsession.2.2.1⟩

end Client

end GitCensus.CatFile
