import GitCensus.CatFile.Client
/-!
# How requests of a client end

A request ends as its reply line and, for a tree, its payload let it.  Over any
transport there is one case for each way through.
-/

namespace GitCensus.CatFile.Client

open Channel (Transport)

variable {τ : Type}

/-- The ways that asking for a header can end. -/
inductive HeaderEnd (T : Transport τ) (id : ObjectId) (c : Client τ) :
    Except Fault Header × Client τ → Prop
  | failed {fault : Fault} {headers : Channel τ}
      (hrequest : c.headers.request T id = (.error fault, headers)) :
      HeaderEnd T id c (.error fault, { c with headers })
  | missing {headers : Channel τ} (hrequest : c.headers.request T id = (.ok .missing, headers)) :
      HeaderEnd T id c (.error (.missing id), { c with headers })
  | header {kind : ObjectKind} {size : Nat} {headers : Channel τ}
      (hrequest : c.headers.request T id = (.ok (.header kind size), headers)) :
      HeaderEnd T id c (.ok ⟨kind, size⟩, { c with headers })

theorem headerEnd (T : Transport τ) (id : ObjectId) (c : Client τ) :
    HeaderEnd T id c (c.readHeader T id) := by
  unfold readHeader
  cases hrequest : c.headers.request T id with
  | mk answer headers =>
      cases answer with
      | error fault => exact .failed hrequest
      | ok reply =>
          cases reply with
          | missing => exact .missing hrequest
          | header kind size => exact .header hrequest

/-- The ways that asking for the payload of a tree can end. -/
inductive TreeEnd (T : Transport τ) (id : ObjectId) (c : Client τ) :
    Except Fault Bytes × Client τ → Prop
  | failed {fault : Fault} {payloads : Channel τ}
      (hrequest : c.payloads.request T id = (.error fault, payloads)) :
      TreeEnd T id c (.error fault, { c with payloads })
  | missing {payloads : Channel τ} (hrequest : c.payloads.request T id = (.ok .missing, payloads)) :
      TreeEnd T id c (.error (.missing id), { c with payloads })
  | unread {size : Nat} {fault : Fault} {payloads payloads' : Channel τ}
      (hrequest : c.payloads.request T id = (.ok (.header .tree size), payloads))
      (hread : payloads.readExactly T (size + 1) = (.error fault, payloads')) :
      TreeEnd T id c (.error fault, { c with payloads := payloads' })
  | unterminated {size : Nat} {data : Bytes} {payloads payloads' : Channel τ}
      (hrequest : c.payloads.request T id = (.ok (.header .tree size), payloads))
      (hread : payloads.readExactly T (size + 1) = (.ok data, payloads'))
      (hlast : data.getLast? ≠ some Bytes.lineFeed) :
      TreeEnd T id c
        (.error (.protocol (.unterminatedTree id)), { c with payloads := payloads' })
  | tree {size : Nat} {data : Bytes} {payloads payloads' : Channel τ}
      (hrequest : c.payloads.request T id = (.ok (.header .tree size), payloads))
      (hread : payloads.readExactly T (size + 1) = (.ok data, payloads'))
      (hlast : data.getLast? = some Bytes.lineFeed) :
      TreeEnd T id c (.ok data.dropLast, { c with payloads := payloads' })
  | unskipped {kind : ObjectKind} {size : Nat} {fault : Fault} {payloads payloads' : Channel τ}
      (hrequest : c.payloads.request T id = (.ok (.header kind size), payloads))
      (hkind : kind ≠ .tree) (hskip : payloads.skip T (size + 1) = (.error fault, payloads')) :
      TreeEnd T id c (.error fault, { c with payloads := payloads' })
  | other {kind : ObjectKind} {size : Nat} {payloads payloads' : Channel τ}
      (hrequest : c.payloads.request T id = (.ok (.header kind size), payloads))
      (hkind : kind ≠ .tree) (hskip : payloads.skip T (size + 1) = (.ok (), payloads')) :
      TreeEnd T id c
        (.error (.wrongKind id kind.name ObjectKind.tree.name), { c with payloads := payloads' })

theorem treeEnd (T : Transport τ) (id : ObjectId) (c : Client τ) :
    TreeEnd T id c (c.readTree T id) := by
  unfold readTree
  cases hrequest : c.payloads.request T id with
  | mk answer payloads =>
      cases answer with
      | error fault => exact .failed hrequest
      | ok reply =>
          cases reply with
          | missing => exact .missing hrequest
          | header kind size =>
              dsimp only
              by_cases hkind : kind = .tree
              · subst hkind
                rw [if_pos rfl]
                cases hread : payloads.readExactly T (size + 1) with
                | mk answer payloads' =>
                    cases answer with
                    | error fault => exact .unread hrequest hread
                    | ok data =>
                        dsimp only
                        by_cases hlast : data.getLast? = some Bytes.lineFeed
                        · rw [if_pos hlast]
                          exact .tree hrequest hread hlast
                        · rw [if_neg hlast]
                          exact .unterminated hrequest hread hlast
              · rw [if_neg hkind]
                cases hskip : payloads.skip T (size + 1) with
                | mk answer payloads' =>
                    cases answer with
                    | error fault => exact .unskipped hrequest hkind hskip
                    | ok done => exact .other hrequest hkind hskip

end GitCensus.CatFile.Client
