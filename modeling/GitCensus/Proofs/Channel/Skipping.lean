import GitCensus.Proofs.Channel.Exchange
/-!
# Passing over what could be read

Reading a payload and passing over it ask for portions of different sizes.  On streams that
hold the same they succeed and fail alike, and take the same bytes: neither ever asks for a
byte behind the payload.
-/

namespace GitCensus.Channel

open ReplyStream (transport readEnd)

/-! ## The reads that are made -/

namespace ReplyStream

variable {missing size : Nat} {sizes : List Nat} {s s' s'' : ReplyStream} {piece : Bytes}

/-- Reads of the given sizes, one after the other, none of which asks for more bytes than
are then missing. -/
inductive Reads : Nat → ReplyStream → List Nat → ReplyStream → Prop
  | done {missing : Nat} {s : ReplyStream} : Reads missing s [] s
  | next {missing size : Nat} {sizes : List Nat} {s s' : ReplyStream} (hsize : size ≤ missing)
      (hrest : Reads (missing - (s.unread.length - (s.read size).2.unread.length))
        (s.read size).2 sizes s') : Reads missing s (size :: sizes) s'

theorem asked_read (n : Nat) (s : ReplyStream) : (s.read n).2.asked = n :: s.asked := by
  have hend := readEnd n s
  generalize s.read n = result at hend ⊢
  cases hend <;> rfl

theorem Reads.asked (h : Reads missing s sizes s') : s'.asked = sizes.reverse ++ s.asked := by
  induction h with
  | done => rfl
  | next _ _ ih =>
      rw [ih, asked_read, List.reverse_cons, List.append_assoc]
      rfl

theorem unread_of_read (hread : s.read size = (.ok piece, s')) : s.unread = piece ++ s'.unread := by
  have hend := readEnd size s
  rw [hread] at hend
  generalize hresult : ((.ok piece, s') : Except StreamFault Bytes × ReplyStream) = result at hend
  cases hend with
  | closed => cases hresult
  | tooLong => cases hresult
  | broken => cases hresult
  | ended =>
      obtain ⟨hpiece, rfl⟩ := Prod.mk.inj hresult
      obtain rfl := Except.ok.inj hpiece
      rfl
  | piece _ _ hunread =>
      obtain ⟨hpiece, rfl⟩ := Prod.mk.inj hresult
      obtain rfl := Except.ok.inj hpiece
      exact hunread

/-- The last read, whatever it comes to. -/
theorem Reads.last {answer : Except StreamFault Bytes} (hread : s.read size = (answer, s'))
    (hsize : size ≤ missing) : Reads missing s [size] s' := by
  apply Reads.next hsize
  rw [hread]
  exact .done

theorem Reads.delivered (hread : s.read size = (.ok piece, s')) (hsize : size ≤ missing)
    (hrest : Reads (missing - piece.length) s' sizes s'') : Reads missing s (size :: sizes) s'' := by
  have htaken : s.unread.length - s'.unread.length = piece.length := by
    rw [unread_of_read hread, List.length_append]
    omega
  apply Reads.next hsize
  rw [hread, htaken]
  exact hrest

theorem Drained.reads {ask : Nat → Nat} {drained : Except StreamFault (Bytes × Nat)}
    (h : Drained ask missing s drained s') (hle : ∀ k, ask k ≤ k) :
    ∃ sizes, Reads missing s sizes s' ∧ ∀ size ∈ sizes, ∃ k, size = ask k := by
  induction h with
  | done => exact ⟨[], .done, by simp⟩
  | @failed n _ _ _ _ hread =>
      exact ⟨[ask n], .last hread (hle n), List.forall_mem_singleton.mpr ⟨n, rfl⟩⟩
  | @ended n _ _ _ hread =>
      exact ⟨[ask n], .last hread (hle n), List.forall_mem_singleton.mpr ⟨n, rfl⟩⟩
  | @piece n _ _ _ _ _ _ _ hread _ ih =>
      obtain ⟨sizes, hrest, hsizes⟩ := ih
      exact ⟨ask n :: sizes, .delivered hread (hle n) hrest, List.forall_mem_cons.mpr ⟨⟨n, rfl⟩, hsizes⟩⟩

end ReplyStream

open ReplyStream (Reads)

theorem collect_reads (n : Nat) (pieces : List Bytes) (s : ReplyStream) :
    ∃ sizes, Reads n s sizes (collect transport n pieces s).2 := by
  obtain ⟨drained, hdrained, -⟩ := collect_drained n pieces s
  obtain ⟨sizes, hreads, -⟩ := hdrained.reads Nat.le_refl
  exact ⟨sizes, hreads⟩

theorem discard_reads (n : Nat) (s : ReplyStream) :
    ∃ sizes, Reads n s sizes (discard transport n s).2 ∧ ∀ size ∈ sizes, size ≤ skipPortion := by
  obtain ⟨drained, hdrained, -⟩ := discard_drained n s
  obtain ⟨sizes, hreads, hsizes⟩ := hdrained.reads fun k => (min_skipPortion k).1
  refine ⟨sizes, hreads, fun size hsize => ?_⟩
  obtain ⟨k, rfl⟩ := hsizes size hsize
  exact Nat.min_le_right k skipPortion

/-! ## The same for both -/

variable {c c' : Channel ReplyStream} {n : Int}

theorem supply_congr {s s' : ReplyStream} (hunread : s'.unread = s.unread)
    (hends : s'.breaksOff = s.breaksOff) (k : Nat) : s'.supply k = s.supply k := by
  rw [ReplyStream.supply, ReplyStream.supply, hunread, hends]

theorem supply_of_payloadResult {name : String} {s : ReplyStream} {data : Bytes}
    (h : payloadResult name n (s.supply n.toNat) = .ok data) :
    n = data.length ∧ data = s.unread.take n.toNat := by
  unfold ReplyStream.supply at h
  split at h
  · cases h
  · dsimp only [payloadResult] at h
    split at h
    · next hall =>
        obtain rfl := Except.ok.inj h
        refine ⟨?_, rfl⟩
        rw [List.length_take]
        omega
    · cases h

/-- Over streams that hold the same bytes and end alike, whatever portions each delivers,
passing over bytes comes to what reading them does: it succeeds with the same bytes taken
or fails with the same fault.  No read of either asks for more than is missing, and none
that passes over bytes for more than a portion. -/
theorem skip_as_readExactly (hs : c.link.Flowing) (hs' : c'.link.Flowing) (hname : c'.name = c.name)
    (hunread : c'.link.unread = c.link.unread) (hends : c'.link.breaksOff = c.link.breaksOff)
    (hn : n ≤ longestRead) :
    (c'.skip transport n).1 = (c.readExactly transport n).1.map (fun _ => ()) ∧
    (c'.skip transport n).2.link.unread = (c.readExactly transport n).2.link.unread ∧
    (∀ data, (c.readExactly transport n).1 = .ok data →
      n = data.length ∧ c.link.unread = data ++ (c.readExactly transport n).2.link.unread) ∧
    (∃ sizes, Reads n.toNat c.link sizes (c.readExactly transport n).2.link ∧
      (c.readExactly transport n).2.link.asked = sizes.reverse ++ c.link.asked) ∧
    ∃ sizes, Reads n.toNat c'.link sizes (c'.skip transport n).2.link ∧
      (c'.skip transport n).2.link.asked = sizes.reverse ++ c'.link.asked ∧
      ∀ size ∈ sizes, size ≤ 65536 := by
  obtain ⟨-, asked, hcollect⟩ := collect_flowing hs (n := n.toNat) (by omega) []
  obtain ⟨-, asked', hdiscard⟩ := discard_flowing hs' n.toNat
  obtain ⟨sizes, hreads⟩ := collect_reads n.toNat [] c.link
  obtain ⟨sizes', hreads', hportions⟩ := discard_reads n.toNat c'.link
  rw [readExactly_flowing hs hn, skip_flowing hs', supply_congr hunread hends, hname]
  refine ⟨rfl, ?_, fun data hdata => ?_, ⟨sizes, hreads, hreads.asked⟩,
    ⟨sizes', hreads', hreads'.asked, hportions⟩⟩
  · dsimp only
    rw [hcollect, hdiscard, hunread]
  · obtain ⟨hlength, htake⟩ := supply_of_payloadResult hdata
    refine ⟨hlength, ?_⟩
    dsimp only
    rw [hcollect, htake, List.take_append_drop]

/-- Four bytes, delivered one by one or as asked for; one more is asked for than there is. -/
theorem skip_as_readExactly_short :
    ∃ c c' : Channel ReplyStream, c.link.unread = [1, 2, 3, 4] ∧ c'.link.unread = [1, 2, 3, 4] ∧
      (∀ asked, c.link.portion asked = some 1) ∧ (∀ asked, c'.link.portion asked = none) ∧
      (c'.skip transport 5).1 = (c.readExactly transport 5).1.map (fun _ => ()) ∧
      (c.readExactly transport 5).1 = .error (.protocol (.shortRead "replies" 5 4)) ∧
      (c'.skip transport 5).2.link.unread = (c.readExactly transport 5).2.link.unread := by
  let c : Channel ReplyStream := ⟨"replies", { unread := [1, 2, 3, 4], portion := fun _ => some 1 }⟩
  let c' : Channel ReplyStream := ⟨"replies", { unread := [1, 2, 3, 4] }⟩
  have hs : c.link.Flowing := ⟨rfl, fun _ => by simp [c]⟩
  have hs' : c'.link.Flowing := ⟨rfl, fun _ => by simp [c']⟩
  obtain ⟨hanswer, hunread, -⟩ :=
    skip_as_readExactly (n := 5) hs hs' rfl rfl rfl (by rw [longestRead]; omega)
  have hwritable : Text.Decimal.isWritable 5 = true := by
    by_contra hlong
    have hlt : longestRead < Int.natAbs 5 := longestRead_lt_of_not_writable (by simpa using hlong)
    exact absurd hlt (by decide)
  refine ⟨c, c', rfl, rfl, fun _ => rfl, fun _ => rfl, hanswer, ?_, hunread⟩
  rw [readExactly_flowing hs (by rw [longestRead]; omega), payloadResult_short rfl _ (by decide),
    shortFault, if_pos hwritable]
  rfl

end GitCensus.Channel
