import Mathlib.Algebra.BigOperators.Group.List.Basic
import Mathlib.Tactic.Ring
import GitCensus.Database.Pack
/-!
# The headers of pack entries

A header ends with its first byte without the top bit, and is read exactly up to there.
The groups of bits of its size are put together by or and shift, which comes to the sum of
the groups by weight because no two of them overlap.
-/

namespace GitCensus.Database

namespace EntryHeader

variable {b last : UInt8} {groups after : Bytes} {shift size : Nat}

/-! ## Bits of a byte -/

theorem toNat_and_low (b : UInt8) : (b &&& 0x0f).toNat = b.toNat % 0x10 := by
  rw [UInt8.toNat_and]
  exact Nat.and_two_pow_sub_one_eq_mod b.toNat 4

theorem toNat_and_group (b : UInt8) : (b &&& 0x7f).toNat = b.toNat % 0x80 := by
  rw [UInt8.toNat_and]
  exact Nat.and_two_pow_sub_one_eq_mod b.toNat 7

theorem toNat_type (b : UInt8) : (b >>> 4 &&& 7).toNat = b.toNat / 0x10 % 8 := by
  rw [UInt8.toNat_and, UInt8.toNat_shiftRight]
  change b.toNat >>> 4 &&& 7 = _
  rw [Nat.shiftRight_eq_div_pow]
  exact Nat.and_two_pow_sub_one_eq_mod _ 3

theorem and_top_eq_zero_iff (b : UInt8) : b &&& 0x80 = 0 ↔ b < 0x80 := by
  have hall : ∀ x : BitVec 8, UInt8.ofBitVec x &&& 0x80 = 0 ↔ UInt8.ofBitVec x < 0x80 := by
    decide +kernel
  exact hall b.toBitVec

/-- A group put in above all bits of a size adds to it. -/
theorem or_shiftLeft (hsize : size < 2 ^ shift) (group : Nat) :
    size ||| group <<< shift = size + group * 2 ^ shift := by
  calc size ||| group <<< shift = 2 ^ shift * group ||| size := by
        rw [Nat.shiftLeft_eq, Nat.mul_comm, Nat.or_comm]
    _ = 2 ^ shift * group + size := (Nat.two_pow_add_eq_or_of_lt hsize group).symm
    _ = size + group * 2 ^ shift := by ring

theorem add_group_lt (hsize : size < 2 ^ shift) (b : UInt8) :
    size + b.toNat % 0x80 * 2 ^ shift < 2 ^ (shift + 7) := by
  have hgroup : b.toNat % 0x80 + 1 ≤ 0x80 := by omega
  calc size + b.toNat % 0x80 * 2 ^ shift < (b.toNat % 0x80 + 1) * 2 ^ shift := by
        rw [Nat.add_mul]
        omega
    _ ≤ 0x80 * 2 ^ shift := Nat.mul_le_mul_right _ hgroup
    _ = 2 ^ (shift + 7) := by ring

/-! ## Sums of groups -/

/-- The sum of groups of seven bits, the first with the weight of the bit `shift`. -/
def groupSum (shift : Nat) (groups : Bytes) : Nat :=
  (groups.zipIdx.map fun (b, i) => b.toNat % 0x80 * 2 ^ (shift + 7 * i)).sum

@[simp] theorem groupSum_nil (shift : Nat) : groupSum shift [] = 0 := rfl

@[simp] theorem groupSum_cons (shift : Nat) (b : UInt8) (rest : Bytes) :
    groupSum shift (b :: rest) = b.toNat % 0x80 * 2 ^ shift + groupSum (shift + 7) rest := by
  unfold groupSum
  rw [List.zipIdx_cons, List.map_cons, List.sum_cons, List.zipIdx_succ, List.map_map]
  have hweight : ∀ i, shift + 7 * (i + 1) = shift + 7 + 7 * i := by
    intro i
    omega
  simp [Function.comp_def, hweight]

theorem groupSum_append (shift : Nat) (front back : Bytes) :
    groupSum shift (front ++ back) =
      groupSum shift front + groupSum (shift + 7 * front.length) back := by
  induction front generalizing shift with
  | nil => simp
  | cons b front ih =>
      have hweight : shift + 7 + 7 * front.length = shift + 7 * (front.length + 1) := by omega
      rw [List.cons_append, groupSum_cons, groupSum_cons, ih, List.length_cons, hweight]
      omega

theorem groupSum_replicate_zero (shift n : Nat) :
    groupSum shift (List.replicate n 0x80 ++ [0]) = 0 := by
  induction n generalizing shift with
  | zero => simp
  | succ n ih => simp [List.replicate_succ, ih]

/-! ## Reading -/

/-- The bytes of one header: all but the last have the top bit. -/
def Delimited (header : Bytes) : Prop :=
  ∃ groups last, header = groups ++ [last] ∧ (∀ b ∈ groups, 0x80 ≤ b) ∧ last < 0x80

theorem delimited_singleton (hlast : last < 0x80) : Delimited [last] :=
  ⟨[], last, rfl, by simp, hlast⟩

theorem Delimited.cons {header : Bytes} (h : Delimited header) (hb : 0x80 ≤ b) :
    Delimited (b :: header) := by
  obtain ⟨groups, last, rfl, hgroups, hlast⟩ := h
  exact ⟨b :: groups, last, rfl, List.forall_mem_cons.mpr ⟨hb, hgroups⟩, hlast⟩

theorem delimited_cons_iff {header : Bytes} :
    Delimited (b :: header) ↔ if b < 0x80 then header = [] else Delimited header := by
  constructor
  · rintro ⟨groups, last, heq, hgroups, hlast⟩
    cases groups with
    | nil =>
        obtain ⟨rfl, rfl⟩ := List.cons.inj heq
        rw [if_pos hlast]
    | cons g groups =>
        obtain ⟨rfl, rfl⟩ := List.cons.inj heq
        have hb : ¬ b < 0x80 := UInt8.not_lt.mpr (hgroups b List.mem_cons_self)
        rw [if_neg hb]
        exact ⟨groups, last, rfl, fun g' hg' => hgroups g' (List.mem_cons_of_mem b hg'), hlast⟩
  · intro h
    split at h
    · next hb =>
        subst h
        exact delimited_singleton hb
    · next hb => exact h.cons (UInt8.not_lt.mp hb)

theorem readGroups_append {more : Bytes} (hmore : Delimited more) (hsize : size < 2 ^ shift) :
    readGroups shift size (more ++ after) = (some (size + groupSum shift more), after) := by
  induction more generalizing shift size with
  | nil =>
      obtain ⟨groups, last, heq, -⟩ := hmore
      simp at heq
  | cons b more ih =>
      rw [List.cons_append, readGroups]
      simp only [and_top_eq_zero_iff]
      rw [toNat_and_group, or_shiftLeft hsize, groupSum_cons]
      rw [delimited_cons_iff] at hmore
      split at hmore
      · next hb =>
          subst hmore
          rw [if_pos hb]
          simp
      · next hb =>
          rw [if_neg hb, ih hmore (add_group_lt hsize b), Nat.add_assoc]

theorem readGroups_endless {bytes : Bytes} (hbytes : ∀ b ∈ bytes, 0x80 ≤ b) :
    readGroups shift size bytes = (none, []) := by
  induction bytes generalizing shift size with
  | nil => rfl
  | cons b bytes ih =>
      have hb : ¬ b < 0x80 := UInt8.not_lt.mpr (hbytes b List.mem_cons_self)
      rw [readGroups]
      simp only [and_top_eq_zero_iff]
      rw [if_neg hb]
      exact ih fun b' hb' => hbytes b' (List.mem_cons_of_mem b hb')

/-- What the bytes of a header state. -/
def stated : Bytes → EntryHeader
  | [] => ⟨0, 0⟩
  | first :: more => ⟨first.toNat / 0x10 % 8, first.toNat % 0x10 + groupSum 4 more⟩

/-- A header is read up to its end, whatever follows it. -/
theorem read_append {header : Bytes} (h : Delimited header) (after : Bytes) :
    read (header ++ after) = (some (stated header), after) := by
  cases header with
  | nil =>
      obtain ⟨groups, last, heq, -⟩ := h
      simp at heq
  | cons first more =>
      rw [List.cons_append, read]
      simp only [and_top_eq_zero_iff, toNat_and_low, toNat_type]
      rw [delimited_cons_iff] at h
      split at h
      · next hfirst =>
          subst h
          rw [if_pos hfirst]
          rfl
      · next hfirst =>
          have hlow : first.toNat % 0x10 < 2 ^ 4 := by omega
          rw [if_neg hfirst, readGroups_append h hlow]
          rfl

/-- A header that does not end is not read. -/
theorem read_endless {bytes : Bytes} (hbytes : ∀ b ∈ bytes, 0x80 ≤ b) :
    read bytes = (none, []) := by
  cases bytes with
  | nil => rfl
  | cons first more =>
      have hfirst : ¬ first < 0x80 := UInt8.not_lt.mpr (hbytes first List.mem_cons_self)
      rw [read]
      simp only [and_top_eq_zero_iff]
      rw [if_neg hfirst, readGroups_endless fun b hb => hbytes b (List.mem_cons_of_mem first hb)]
      rfl

/-- Bytes have the top bit throughout, or begin with a header. -/
theorem endless_or_delimited (bytes : Bytes) :
    (∀ b ∈ bytes, 0x80 ≤ b) ∨ ∃ header after, Delimited header ∧ bytes = header ++ after := by
  induction bytes with
  | nil => exact .inl (by simp)
  | cons b bytes ih =>
      by_cases hb : b < 0x80
      · exact .inr ⟨[b], bytes, delimited_singleton hb, rfl⟩
      · have hb := UInt8.not_lt.mp hb
        rcases ih with hendless | ⟨header, after, hheader, rfl⟩
        · exact .inl (List.forall_mem_cons.mpr ⟨hb, hendless⟩)
        · exact .inr ⟨b :: header, after, hheader.cons hb, rfl⟩

theorem read_eq_some_iff {bytes rest : Bytes} {h : EntryHeader} :
    read bytes = (some h, rest) ↔
      ∃ header, Delimited header ∧ bytes = header ++ rest ∧ h = stated header := by
  constructor
  · intro hread
    rcases endless_or_delimited bytes with hendless | ⟨header, after, hheader, rfl⟩
    · rw [read_endless hendless] at hread
      cases hread
    · rw [read_append hheader] at hread
      obtain ⟨hh, rfl⟩ := Prod.mk.inj hread
      exact ⟨header, hheader, rfl, (Option.some.inj hh).symm⟩
  · rintro ⟨header, hheader, rfl, rfl⟩
    exact read_append hheader rest

theorem isSome_read_iff {bytes : Bytes} : (read bytes).1.isSome ↔ ∃ b ∈ bytes, b < 0x80 := by
  rcases endless_or_delimited bytes with hendless | ⟨header, after, hheader, rfl⟩
  · rw [read_endless hendless]
    constructor
    · intro h
      cases h
    · rintro ⟨b, hb, hlt⟩
      exact absurd hlt (UInt8.not_lt.mpr (hendless b hb))
  · rw [read_append hheader]
    obtain ⟨groups, last, rfl, -, hlast⟩ := hheader
    exact ⟨fun _ => ⟨last, by simp, hlast⟩, fun _ => rfl⟩

/-! ## Writing -/

theorem ofNat_lt_iff {n : Nat} (h : n < 0x100) : UInt8.ofNat n < 0x80 ↔ n < 0x80 := by
  rw [UInt8.lt_iff_toNat_lt, UInt8.toNat_ofNat_of_lt' h]
  rfl

theorem delimited_writeGroups (n : Nat) : Delimited (writeGroups n) := by
  fun_induction writeGroups n with
  | case1 n hn => exact delimited_singleton ((ofNat_lt_iff (by omega)).mpr hn)
  | case2 n hn ih =>
      refine ih.cons (UInt8.not_lt.mp ?_)
      rw [ofNat_lt_iff (by omega)]
      omega

theorem groupSum_writeGroups (shift n : Nat) : groupSum shift (writeGroups n) = n * 2 ^ shift := by
  induction n using writeGroups.induct generalizing shift with
  | case1 n hn =>
      have hbyte : (UInt8.ofNat n).toNat % 0x80 = n := by
        rw [UInt8.toNat_ofNat_of_lt' (show _ < 0x100 by omega), Nat.mod_eq_of_lt hn]
      rw [writeGroups, if_pos hn, groupSum_cons, groupSum_nil, hbyte, Nat.add_zero]
  | case2 n hn ih =>
      have hbyte : (UInt8.ofNat (0x80 + n % 0x80)).toNat % 0x80 = n % 0x80 := by
        rw [UInt8.toNat_ofNat_of_lt' (show _ < 0x100 by omega)]
        omega
      rw [writeGroups, if_neg hn, groupSum_cons, hbyte, ih]
      calc n % 0x80 * 2 ^ shift + n / 0x80 * 2 ^ (shift + 7)
          = (n % 0x80 + 0x80 * (n / 0x80)) * 2 ^ shift := by ring
        _ = n * 2 ^ shift := by rw [Nat.mod_add_div]

theorem delimited_write (h : EntryHeader) : Delimited h.write := by
  unfold write
  dsimp only
  split
  · exact delimited_singleton ((ofNat_lt_iff (by omega)).mpr (by omega))
  · refine (delimited_writeGroups _).cons (UInt8.not_lt.mp ?_)
    rw [ofNat_lt_iff (by omega)]
    omega

theorem stated_write (h : EntryHeader) (htype : h.type < 8) : stated h.write = h := by
  obtain ⟨type, size⟩ := h
  change type < 8 at htype
  unfold write
  dsimp only
  by_cases hsize : size < 0x10
  · rw [if_pos hsize]
    simp only [stated, groupSum_nil, mk.injEq]
    rw [UInt8.toNat_ofNat_of_lt' (show _ < 0x100 by omega)]
    omega
  · rw [if_neg hsize]
    simp only [stated, groupSum_writeGroups, mk.injEq]
    rw [UInt8.toNat_ofNat_of_lt' (show _ < 0x100 by omega)]
    omega

/-! ## Padding -/

theorem top_le_or (b : UInt8) : 0x80 ≤ b ||| 0x80 := by
  rw [UInt8.le_iff_toNat_le, UInt8.toNat_or]
  exact Nat.right_le_or

theorem and_group_lt (b : UInt8) : b &&& 0x7f < 0x80 := by
  rw [UInt8.lt_iff_toNat_lt, toNat_and_group]
  exact Nat.mod_lt _ (by decide)

theorem toNat_or_top_mod (b : UInt8) : (b ||| 0x80).toNat % 0x80 = b.toNat % 0x80 := by
  rw [UInt8.toNat_or]
  exact (Nat.or_mod_two_pow (n := 7)).trans (by simp)

theorem toNat_or_top_type (b : UInt8) : (b ||| 0x80).toNat / 0x10 % 8 = b.toNat / 0x10 % 8 := by
  have hgroup := toNat_or_top_mod b
  omega

/-- Groups that are all followed by another one. -/
def goingOn (groups : Bytes) : Bytes := groups.map (· ||| 0x80)

theorem delimited_goingOn (groups : Bytes) {header : Bytes} (h : Delimited header) :
    Delimited (goingOn groups ++ header) := by
  induction groups with
  | nil => exact h
  | cons b groups ih => exact ih.cons (top_le_or b)

theorem delimited_zeros (n : Nat) : Delimited (List.replicate n 0x80 ++ [0]) := by
  refine ⟨List.replicate n 0x80, 0, rfl, fun b hb => ?_, by decide⟩
  obtain rfl := List.eq_of_mem_replicate hb
  exact UInt8.le_refl _

/-- Zero groups at the end of a header do not change what it states. -/
theorem stated_zeros (groups : Bytes) (last : UInt8) (n : Nat) :
    stated (goingOn groups ++ (last ||| 0x80) :: (List.replicate n 0x80 ++ [0])) =
      stated (goingOn groups ++ [last &&& 0x7f]) := by
  have htop := toNat_or_top_mod last
  have htype := toNat_or_top_type last
  have hlow := toNat_and_group last
  cases groups with
  | nil =>
      simp only [goingOn, List.map_nil, List.nil_append, stated, groupSum_replicate_zero,
        groupSum_nil, mk.injEq]
      omega
  | cons first groups =>
      have hsum : ∀ shift, groupSum shift (goingOn groups ++
          (last ||| 0x80) :: (List.replicate n 0x80 ++ [0])) =
          groupSum shift (goingOn groups ++ [last &&& 0x7f]) := by
        intro shift
        rw [groupSum_append, groupSum_append, groupSum_cons, groupSum_cons,
          groupSum_replicate_zero, groupSum_nil, htop, hlow, Nat.mod_mod]
      simp only [goingOn, List.map_cons, List.cons_append, stated, mk.injEq, true_and,
        Nat.add_left_cancel_iff]
      exact hsum 4

end EntryHeader

namespace Pack.Handle

open EntryHeader

variable {offset : Nat} {before header after unread : Bytes}

theorem exists_mem_drop_iff {content : Bytes} {p : UInt8 → Prop} :
    (∃ b ∈ content.drop offset, p b) ↔ ∃ i b, offset ≤ i ∧ content[i]? = some b ∧ p b := by
  constructor
  · rintro ⟨b, hb, hp⟩
    obtain ⟨i, hi⟩ := List.mem_iff_getElem?.mp hb
    rw [List.getElem?_drop] at hi
    exact ⟨offset + i, b, Nat.le_add_right _ _, hi, hp⟩
  · rintro ⟨i, b, hle, hi, hp⟩
    refine ⟨b, List.mem_iff_getElem?.mpr ⟨i - offset, ?_⟩, hp⟩
    rw [List.getElem?_drop, Nat.add_sub_cancel' hle]
    exact hi

/-- A header that stands somewhere in a file is read there, and the file stands after it. -/
theorem readHeader_at (hheader : Delimited header) (before after unread : Bytes) :
    readHeader before.length ⟨before ++ (header ++ after), unread⟩ =
      (some (stated header), ⟨before ++ (header ++ after), after⟩) := by
  unfold readHeader seek
  simp only [List.drop_left, read_append hheader]

/-- Wherever a file stands, reading at an offset gives back the header that was written
there, for each type and size.  There is a header exactly if some byte from there on lacks
the top bit.  The header read ends with the first such byte, its size is the sum of the
groups by weight, and the file stands right after it.  Zero groups do not change it. -/
theorem readHeader_reads_written :
    (∀ (type : Fin 8) (size : Nat) (before after unread : Bytes),
      readHeader before.length ⟨before ++ (write ⟨type, size⟩ ++ after), unread⟩ =
        (some ⟨type, size⟩, ⟨before ++ (write ⟨type, size⟩ ++ after), after⟩)) ∧
    (∀ (f : Handle) (offset : Nat),
      (f.readHeader offset).1.isSome ↔
        ∃ i b, offset ≤ i ∧ f.content[i]? = some b ∧ b < 0x80) ∧
    (∀ (f : Handle) (offset : Nat) (h : EntryHeader) (rest : Bytes),
      f.readHeader offset = (some h, ⟨f.content, rest⟩) ↔
        ∃ groups last, (∀ b ∈ groups, 0x80 ≤ b) ∧ last < 0x80 ∧
          f.content.drop offset = groups ++ last :: rest ∧
          ∃ first more, groups ++ [last] = first :: more ∧ h.type = first.toNat / 0x10 % 8 ∧
            h.size = first.toNat % 0x10 +
              (more.zipIdx.map fun (b, i) => b.toNat % 0x80 * 2 ^ (4 + 7 * i)).sum) ∧
    (∀ (groups : Bytes) (last : UInt8) (n : Nat) (before after unread : Bytes),
      (readHeader before.length ⟨before ++ (goingOn groups ++ (last ||| 0x80) ::
          (List.replicate n 0x80 ++ [0]) ++ after), unread⟩).1 =
        (readHeader before.length
          ⟨before ++ (goingOn groups ++ [last &&& 0x7f] ++ after), unread⟩).1) := by
  refine ⟨?_, ?_, ?_, ?_⟩
  · intro type size before after unread
    rw [readHeader_at (delimited_write _), stated_write _ type.isLt]
  · intro f offset
    rw [← exists_mem_drop_iff]
    exact isSome_read_iff
  · intro f offset h rest
    have hread : f.readHeader offset = (some h, ⟨f.content, rest⟩) ↔
        read (f.content.drop offset) = (some h, rest) := by
      simp [readHeader, seek, Prod.ext_iff]
    rw [hread, read_eq_some_iff]
    constructor
    · rintro ⟨header, ⟨groups, last, rfl, hgroups, hlast⟩, hdrop, rfl⟩
      refine ⟨groups, last, hgroups, hlast, by rw [hdrop]; simp, ?_⟩
      cases hheader : groups ++ [last] with
      | nil => simp at hheader
      | cons first more => exact ⟨first, more, rfl, rfl, rfl⟩
    · rintro ⟨groups, last, hgroups, hlast, hdrop, first, more, hheader, htype, hsize⟩
      refine ⟨groups ++ [last], ⟨groups, last, rfl, hgroups, hlast⟩, by rw [hdrop]; simp, ?_⟩
      obtain ⟨type, size⟩ := h
      rw [hheader]
      exact congrArg₂ EntryHeader.mk htype hsize
  · intro groups last n before after unread
    have hpadded := delimited_goingOn groups ((delimited_zeros n).cons (top_le_or last))
    have hplain := delimited_goingOn groups (delimited_singleton (and_group_lt last))
    rw [readHeader_at hpadded, readHeader_at hplain, stated_zeros]

end Pack.Handle

end GitCensus.Database
