import Mathlib.Data.List.Basic
import GitCensus.Channel.Basic
import GitCensus.Channel.ReplyStream
import GitCensus.Proofs.Text.Separators
/-!
# Reading from reply streams

However a stream parts its replies, asking for bytes until none is missing takes them
off the stream in order and stops at the last one asked for or at the end.
-/

namespace GitCensus.Channel

section Transports

variable {τ τ' : Type} {T : Transport τ} {T' : Transport τ'} {put : τ → τ'}

/-- Where a transport only carries another one along, so does reading until nothing is
missing. -/
theorem collect_lift (h : ∀ n link, T'.read n (put link) = ((T.read n link).1, put (T.read n link).2))
    (n : Nat) (pieces : List Bytes) (link : τ) :
    collect T' n pieces (put link) =
      ((collect T n pieces link).1, put (collect T n pieces link).2) := by
  fun_induction collect T n pieces link with
  | case1 pieces link => rw [collect, if_pos rfl]
  | case2 n pieces link hn cause link' hread => rw [collect, if_neg hn, h, hread]
  | case3 n pieces link hn link' hread => rw [collect, if_neg hn, h, hread]
  | case4 n pieces link hn b piece link' hread ih =>
      rw [collect, if_neg hn, h, hread]
      exact ih

theorem discard_lift (h : ∀ n link, T'.read n (put link) = ((T.read n link).1, put (T.read n link).2))
    (n : Nat) (link : τ) :
    discard T' n (put link) = ((discard T n link).1, put (discard T n link).2) := by
  fun_induction discard T n link with
  | case1 link => rw [discard, if_pos rfl]
  | case2 n link hn cause link' hread => rw [discard, if_neg hn, h, hread]
  | case3 n link hn link' hread => rw [discard, if_neg hn, h, hread]
  | case4 n link hn b piece link' hread ih =>
      rw [discard, if_neg hn, h, hread]
      exact ih

end Transports

namespace ReplyStream

variable {s s' s'' : ReplyStream} {k n : Nat}

/-- Reading has taken bytes off the replies, and nothing else is different but the record
of what was asked for. -/
def Taken (k : Nat) (s s' : ReplyStream) : Prop :=
  ∃ asked, s' = { s with unread := s.unread.drop k, asked }

theorem Taken.none (s : ReplyStream) : s.Taken 0 s := ⟨s.asked, by rw [List.drop_zero]⟩

theorem Taken.trans {j : Nat} (h : s.Taken k s') (h' : s'.Taken j s'') : s.Taken (k + j) s'' := by
  obtain ⟨asked, rfl⟩ := h
  obtain ⟨asked', rfl⟩ := h'
  exact ⟨asked', by rw [List.drop_drop]⟩

theorem Taken.of_nil (hend : s.unread = []) (k : Nat) (asked : List Nat) :
    s.Taken k { s with asked } := ⟨asked, by rw [hend, List.drop_nil]⟩

theorem Taken.of_append {piece rest : Bytes} (hunread : s.unread = piece ++ rest)
    (asked : List Nat) : s.Taken piece.length { s with unread := rest, asked } :=
  ⟨asked, by rw [hunread, List.drop_left]⟩

/-- The stream is open, and while there are replies every read delivers some. -/
structure Flowing (s : ReplyStream) : Prop where
  isOpen : s.isClosed = false
  portion_ne_zero : ∀ asked, s.portion asked ≠ some 0

theorem Flowing.of_taken (hs : s.Flowing) (h : s.Taken k s') : s'.Flowing := by
  obtain ⟨asked, rfl⟩ := h
  exact ⟨hs.isOpen, hs.portion_ne_zero⟩

inductive ReadEnd (n : Nat) (s : ReplyStream) : Except StreamFault Bytes × ReplyStream → Prop
  | closed (hclosed : s.isClosed = true) :
      ReadEnd n s (.error .closed, { s with asked := n :: s.asked })
  | tooLong (hlong : longestRead < n) :
      ReadEnd n s (.error .tooLong, { s with asked := n :: s.asked })
  | broken (hbreaks : s.breaksOff = true) (hend : s.Flowing → 0 < n → s.unread = []) :
      ReadEnd n s (.error .readFailed, { s with asked := n :: s.asked })
  | ended (hgoes : s.breaksOff ≠ true) (hend : s.Flowing → 0 < n → s.unread = []) :
      ReadEnd n s (.ok [], { s with asked := n :: s.asked })
  | piece {piece rest : Bytes} (hne : piece ≠ []) (hle : piece.length ≤ n)
      (hunread : s.unread = piece ++ rest) :
      ReadEnd n s (.ok piece, { s with unread := rest, asked := n :: s.asked })

theorem readEnd (n : Nat) (s : ReplyStream) : ReadEnd n s (s.read n) := by
  have hdeliver (most : Nat) (hle : most ≤ n) (hmost : s.Flowing → 0 < n → 0 < most) :
      ReadEnd n s (if (s.unread.take most).isEmpty && s.breaksOff then
          (.error .readFailed, { s with asked := n :: s.asked })
        else (.ok (s.unread.take most),
          { s with unread := s.unread.drop most, asked := n :: s.asked })) := by
    cases htake : s.unread.take most with
    | cons b piece =>
        have hlength : (b :: piece).length ≤ n := by
          rw [← htake, List.length_take]
          omega
        have hunread : s.unread = b :: piece ++ s.unread.drop most := by
          rw [← htake, List.take_append_drop]
        exact .piece (List.cons_ne_nil b piece) hlength hunread
    | nil =>
        -- nothing is delivered at the end only, unless the rule allows a portion of none
        have hend : s.Flowing → 0 < n → s.unread = [] := by
          intro hs hn
          rcases List.take_eq_nil_iff.mp htake with hzero | hnil
          · have hpos := hmost hs hn
            omega
          · exact hnil
        have hdrop : s.unread.drop most = s.unread := by
          rcases List.take_eq_nil_iff.mp htake with hzero | hnil
          · rw [hzero, List.drop_zero]
          · rw [hnil, List.drop_nil]
        rw [hdrop]
        by_cases hbreaks : s.breaksOff = true
        · rw [if_pos (by simp [hbreaks])]
          exact .broken hbreaks hend
        · rw [if_neg (by simp [hbreaks])]
          exact .ended hbreaks hend
  unfold read
  dsimp only
  split
  · next hclosed => exact .closed hclosed
  split
  · next bound hbound =>
      refine hdeliver _ (Nat.min_le_left n bound) fun hs hn => ?_
      have hpos : bound ≠ 0 := fun hzero => hs.portion_ne_zero _ (hzero ▸ hbound)
      omega
  split
  · next hlong => exact .tooLong hlong
  · exact hdeliver n (Nat.le_refl n) fun _ hn => hn

theorem ReadEnd.taken {result : Except StreamFault Bytes × ReplyStream} (h : ReadEnd n s result) :
    ∃ k, s.Taken k result.2 := by
  have hnone : s.Taken 0 { s with asked := n :: s.asked } := ⟨_, by rw [List.drop_zero]⟩
  cases h with
  | closed => exact ⟨0, hnone⟩
  | tooLong => exact ⟨0, hnone⟩
  | broken => exact ⟨0, hnone⟩
  | ended => exact ⟨0, hnone⟩
  | piece _ _ hunread => exact ⟨_, .of_append hunread _⟩

/-- What a stream has for someone who asks for `n` bytes: the bytes, and the number of
those that are missing. -/
def supply (n : Nat) (s : ReplyStream) : Except StreamFault (Bytes × Nat) :=
  if s.unread.length < n ∧ s.breaksOff = true then .error .readFailed
  else .ok (s.unread.take n, n - s.unread.length)

theorem supply_zero : s.supply 0 = .ok ([], 0) := by
  simp [supply]

theorem supply_of_nil (hn : 0 < n) (hend : s.unread = []) :
    s.supply n = if s.breaksOff = true then .error .readFailed else .ok ([], n) := by
  simp [supply, hend, hn]

/-- Taking some of the bytes asked for leaves the others to be asked for. -/
theorem supply_append {piece rest : Bytes} (asked : List Nat) (hunread : s.unread = piece ++ rest)
    (hle : piece.length ≤ n) :
    s.supply n = (supply (n - piece.length) { s with unread := rest, asked }).map
      fun got => (piece ++ got.1, got.2) := by
  have hshort : (piece ++ rest).length < n ↔ rest.length < n - piece.length := by
    rw [List.length_append]
    omega
  have hmissing : n - (piece ++ rest).length = n - piece.length - rest.length := by
    rw [List.length_append]
    omega
  have htake : (piece ++ rest).take n = piece ++ rest.take (n - piece.length) := by
    rw [List.take_append, List.take_of_length_le hle]
  unfold supply
  simp only [hunread, hshort, hmissing, htake]
  split <;> rfl

/-! ## Reading on until nothing is missing -/

/-- Reading on until nothing is missing, where `ask` tells how much is asked for: why a read
failed, or what was delivered and the number of bytes still missing. -/
inductive Drained (ask : Nat → Nat) :
    Nat → ReplyStream → Except StreamFault (Bytes × Nat) → ReplyStream → Prop
  | done (s : ReplyStream) : Drained ask 0 s (.ok ([], 0)) s
  | failed {n : Nat} {s s' : ReplyStream} {cause : StreamFault} (hn : 0 < n)
      (hread : s.read (ask n) = (.error cause, s')) : Drained ask n s (.error cause) s'
  | ended {n : Nat} {s s' : ReplyStream} (hn : 0 < n) (hread : s.read (ask n) = (.ok [], s')) :
      Drained ask n s (.ok ([], n)) s'
  | piece {n : Nat} {s s' s'' : ReplyStream} {piece : Bytes}
      {drained : Except StreamFault (Bytes × Nat)} (hn : 0 < n) (hne : piece ≠ [])
      (hread : s.read (ask n) = (.ok piece, s'))
      (hrest : Drained ask (n - piece.length) s' drained s'') :
      Drained ask n s (drained.map fun got => (piece ++ got.1, got.2)) s''

variable {ask : Nat → Nat} {drained : Except StreamFault (Bytes × Nat)}

theorem taken_of_read {answer : Except StreamFault Bytes} (hread : s.read n = (answer, s')) :
    ∃ k, s.Taken k s' := by
  have htaken := (readEnd n s).taken
  rwa [hread] at htaken

/-- What is read on any stream is a beginning of its replies. -/
theorem Drained.taken (h : Drained ask n s drained s') : ∃ k, s.Taken k s' := by
  induction h with
  | done s => exact ⟨0, .none s⟩
  | failed _ hread => exact taken_of_read hread
  | ended _ hread => exact taken_of_read hread
  | piece _ _ hread _ ih =>
      obtain ⟨k, htaken⟩ := taken_of_read hread
      obtain ⟨j, hrest⟩ := ih
      exact ⟨k + j, htaken.trans hrest⟩

/-- A stream refuses a read only if it is asked for too much. -/
theorem Drained.tooLong (h : Drained ask n s (.error .tooLong) s') :
    ∃ k ≤ n, longestRead < ask k := by
  generalize hdrained : (Except.error .tooLong : Except StreamFault (Bytes × Nat)) = drained at h
  induction h with
  | done => cases hdrained
  | @failed n s s' cause _ hread =>
      obtain rfl := Except.error.inj hdrained
      have hend := readEnd (ask n) s
      rw [hread] at hend
      generalize hresult : (Except.error StreamFault.tooLong, s') = result at hend
      cases hend with
      | closed => cases hresult
      | tooLong hlong => exact ⟨n, Nat.le_refl n, hlong⟩
      | broken => cases hresult
      | ended => cases hresult
      | piece => cases hresult
  | ended => cases hdrained
  | @piece n _ _ _ _ drained _ _ _ _ ih =>
      cases drained with
      | error cause =>
          obtain rfl := Except.error.inj hdrained
          obtain ⟨k, hk, hlong⟩ := ih rfl
          exact ⟨k, by omega, hlong⟩
      | ok got => cases hdrained

/-- On a stream that delivers, reading on comes to what the stream has, whatever the
portions. -/
theorem Drained.supply (h : Drained ask n s drained s') (hs : s.Flowing)
    (hpos : ∀ k, 0 < k → 0 < ask k) (hle : ∀ k, ask k ≤ k) (hshort : ∀ k ≤ n, ask k ≤ longestRead) :
    drained = s.supply n ∧ s.Taken n s' := by
  induction h with
  | done s => exact ⟨supply_zero.symm, .none s⟩
  | @failed n s s' cause hn hread =>
      have hend := readEnd (ask n) s
      rw [hread] at hend
      cases hend with
      | closed hclosed => exact absurd (hs.isOpen.symm.trans hclosed) Bool.false_ne_true
      | tooLong hlong =>
          have hask := hshort n (Nat.le_refl n)
          omega
      | broken hbreaks hend =>
          have hnil := hend hs (hpos n hn)
          rw [supply_of_nil hn hnil, if_pos hbreaks]
          exact ⟨rfl, .of_nil hnil n _⟩
  | @ended n s s' hn hread =>
      have hend := readEnd (ask n) s
      rw [hread] at hend
      cases hend with
      | ended hgoes hend =>
          have hnil := hend hs (hpos n hn)
          rw [supply_of_nil hn hnil, if_neg hgoes]
          exact ⟨rfl, .of_nil hnil n _⟩
      | piece hne => exact absurd rfl hne
  | @piece n s s' s'' piece drained hn hne hread hrest ih =>
      have hend := readEnd (ask n) s
      rw [hread] at hend
      cases hend with
      | ended => exact absurd rfl hne
      | piece _ hlength hunread =>
          have hle' : piece.length ≤ n := Nat.le_trans hlength (hle n)
          have htaken := Taken.of_append hunread (ask n :: s.asked)
          obtain ⟨hsupply, hrest⟩ := ih (hs.of_taken htaken) fun k hk => hshort k (by omega)
          have hall := htaken.trans hrest
          rw [Nat.add_sub_cancel' hle'] at hall
          rw [supply_append _ hunread hle', hsupply]
          exact ⟨rfl, hall⟩

end ReplyStream

open ReplyStream (Taken Drained transport)

variable {s : ReplyStream}

/-- Collecting keeps the pieces apart, the newest first. -/
theorem collect_drained (n : Nat) (pieces : List Bytes) (s : ReplyStream) :
    ∃ drained, Drained id n s drained (collect transport n pieces s).2 ∧
      (collect transport n pieces s).1.map (fun got => (got.1.reverse.flatten, got.2)) =
        drained.map fun got => (pieces.reverse.flatten ++ got.1, got.2) := by
  fun_induction collect transport n pieces s with
  | case1 pieces s => exact ⟨_, .done s, by simp [Except.map]⟩
  | case2 n pieces s hn cause s' hread =>
      exact ⟨_, .failed (Nat.pos_of_ne_zero hn) hread, rfl⟩
  | case3 n pieces s hn s' hread =>
      exact ⟨_, .ended (Nat.pos_of_ne_zero hn) hread, by simp [Except.map]⟩
  | case4 n pieces s hn b piece s' hread ih =>
      obtain ⟨drained, hrest, hanswer⟩ := ih
      refine ⟨_, .piece (Nat.pos_of_ne_zero hn) (List.cons_ne_nil b piece) hread hrest, ?_⟩
      rw [hanswer]
      cases drained with
      | error cause => rfl
      | ok got => simp [Except.map]

theorem discard_drained (n : Nat) (s : ReplyStream) :
    ∃ drained, Drained (min · skipPortion) n s drained (discard transport n s).2 ∧
      (discard transport n s).1 = drained.map Prod.snd := by
  fun_induction discard transport n s with
  | case1 s => exact ⟨_, .done s, rfl⟩
  | case2 n s hn cause s' hread => exact ⟨_, .failed (Nat.pos_of_ne_zero hn) hread, rfl⟩
  | case3 n s hn s' hread => exact ⟨_, .ended (Nat.pos_of_ne_zero hn) hread, rfl⟩
  | case4 n s hn b piece s' hread ih =>
      obtain ⟨drained, hrest, hanswer⟩ := ih
      refine ⟨_, .piece (Nat.pos_of_ne_zero hn) (List.cons_ne_nil b piece) hread hrest, ?_⟩
      rw [hanswer]
      cases drained <;> rfl

theorem min_skipPortion (k : Nat) :
    min k skipPortion ≤ k ∧ min k skipPortion ≤ longestRead ∧ (0 < k → 0 < min k skipPortion) := by
  rw [skipPortion, longestRead]
  omega

/-- Reading until nothing is missing gives what the stream has, whatever the portions. -/
theorem collect_flowing (hs : s.Flowing) {n : Nat} (hn : n ≤ longestRead) (pieces : List Bytes) :
    (collect transport n pieces s).1.map (fun got => (got.1.reverse.flatten, got.2)) =
        (s.supply n).map (fun got => (pieces.reverse.flatten ++ got.1, got.2)) ∧
      Taken n s (collect transport n pieces s).2 := by
  obtain ⟨drained, hdrained, hanswer⟩ := collect_drained n pieces s
  obtain ⟨rfl, htaken⟩ := hdrained.supply hs (fun _ hpos => hpos) Nat.le_refl
    fun k hk => Nat.le_trans hk hn
  exact ⟨hanswer, htaken⟩

/-- Passing over bytes counts those that the stream does not have. -/
theorem discard_flowing (hs : s.Flowing) (n : Nat) :
    (discard transport n s).1 = (s.supply n).map Prod.snd ∧ Taken n s (discard transport n s).2 := by
  obtain ⟨drained, hdrained, hanswer⟩ := discard_drained n s
  obtain ⟨rfl, htaken⟩ := hdrained.supply hs (fun k => (min_skipPortion k).2.2)
    (fun k => (min_skipPortion k).1) fun k _ => (min_skipPortion k).2.1
  exact ⟨hanswer, htaken⟩

/-- On any stream, reading until nothing is missing takes a beginning of the replies, and
asks for too much only if told to. -/
theorem collect_any (n : Nat) (pieces : List Bytes) (s : ReplyStream) :
    (∃ k, Taken k s (collect transport n pieces s).2) ∧
      ((collect transport n pieces s).1 = .error .tooLong → longestRead < n) := by
  obtain ⟨drained, hdrained, hanswer⟩ := collect_drained n pieces s
  refine ⟨hdrained.taken, fun hlong => ?_⟩
  rw [hlong] at hanswer
  cases drained with
  | error cause =>
      obtain rfl := Except.error.inj hanswer
      obtain ⟨k, hk, hask⟩ := hdrained.tooLong
      exact Nat.lt_of_lt_of_le hask hk
  | ok got => cases hanswer

/-- On any stream, passing over bytes takes a beginning of the replies, and never asks for
too much. -/
theorem discard_any (n : Nat) (s : ReplyStream) :
    (∃ k, Taken k s (discard transport n s).2) ∧ (discard transport n s).1 ≠ .error .tooLong := by
  obtain ⟨drained, hdrained, hanswer⟩ := discard_drained n s
  refine ⟨hdrained.taken, fun hlong => ?_⟩
  rw [hlong] at hanswer
  cases drained with
  | error cause =>
      obtain rfl := Except.error.inj hanswer
      obtain ⟨k, -, hask⟩ := hdrained.tooLong
      exact absurd hask (Nat.not_lt.mpr (min_skipPortion k).2.1)
  | ok got => cases hanswer

end GitCensus.Channel
