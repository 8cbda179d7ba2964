import RawProfile.Proofs.Memory.Pieces

/-!
# Reading and writing step by step

How a write proceeds if every step is checked: the end of the new bytes, a search for the regions
that they overlap or touch, the stretch that all of these take up, a buffer of zeros of that length,
a copy of each old region and then of the new bytes into it, and the buffer in the place of the old
regions. In each step something could go wrong (`Mishap`). Where regions are spaced, the first sum
is all that does: `write?_of_lt` and `write?_of_not_lt`.

A read looks at one region only, the last that does not begin after the bytes. Where regions are
spaced, no other can hold them, and nothing goes wrong: `read?_eq`.
-/

namespace RawProfile.InPlace

/-- What can stop a write. -/
inductive Mishap where
  | sum
  | difference
  /-- There is no region at an address. -/
  | missing
  /-- A copy would reach past the end of the buffer. -/
  | outside
  deriving DecidableEq

def limit? (address : UInt64) (size : Nat) : Except Mishap UInt64 :=
  if address.toNat + size < UInt64.size then .ok (.ofNat (address.toNat + size)) else .error .sum

def difference? (a b : UInt64) : Except Mishap Nat :=
  if b ≤ a then .ok (a.toNat - b.toNat) else .error .difference

def regionAt? (base : UInt64) (rs : List Region) : Except Mishap Region :=
  match rs.find? (·.base == base) with
  | some r => .ok r
  | none => .error .missing

def copy? (bytes buffer : ByteArray) (offset : Nat) : Except Mishap ByteArray :=
  if offset + bytes.size ≤ buffer.size then
    .ok (buffer.extract 0 offset ++ bytes ++ buffer.extract (offset + bytes.size) buffer.size)
  else .error .outside

/-- Where the regions begin that do not begin after `stop` and do not end before `start`. -/
def touching? (start stop : UInt64) : List Region → Except Mishap (List UInt64)
  | [] => .ok []
  | r :: rs =>
    if stop < r.base then .ok []
    else do
      let limit ← limit? r.base r.bytes.size
      let bases ← touching? start stop rs
      return if start ≤ limit then r.base :: bases else bases

/-- The stretch from `start` up to `stop`, extended by regions. -/
def hull? (rs : List Region) (start stop : UInt64) : List UInt64 → Except Mishap (UInt64 × UInt64)
  | [] => .ok (start, stop)
  | base :: bases => do
    let r ← regionAt? base rs
    let limit ← limit? base r.bytes.size
    hull? rs (min start base) (max stop limit) bases

/-- Takes regions out and copies their bytes into a buffer for the addresses from `start` on. A
region that is not there is passed over. -/
def gather? (start : UInt64) :
    List UInt64 → List Region → ByteArray → Except Mishap (List Region × ByteArray)
  | [], rs, buffer => .ok (rs, buffer)
  | base :: bases, rs, buffer =>
    match rs.find? (·.base == base) with
    | none => gather? start bases rs buffer
    | some r => do
      let offset ← difference? base start
      let buffer ← copy? r.bytes buffer offset
      gather? start bases (rs.filter (·.base != base)) buffer

/-- Puts a region where its base belongs, instead of one with the same base. -/
def place (new : Region) : List Region → List Region
  | [] => [new]
  | r :: rs =>
    if new.base < r.base then new :: r :: rs
    else if r.base = new.base then new :: rs
    else r :: place new rs

def write? (rs : List Region) (address : UInt64) (bytes : ByteArray) :
    Except Mishap (List Region) := do
  let limit ← limit? address bytes.size
  let bases ← touching? address limit rs
  let (start, stop) ← hull? rs address limit bases
  let size ← difference? stop start
  let (rest, buffer) ← gather? start bases rs (zeroBytes size)
  let offset ← difference? address start
  let buffer ← copy? bytes buffer offset
  return place ⟨start, buffer⟩ rest

/-- Reads bytes from the last region that does not begin after them. There are none if their end is
past the largest word or past the end of the region. -/
def read? (rs : List Region) (start length : UInt64) : Except Mishap (Option ByteArray) :=
  if length = 0 then .ok (some .empty)
  else
    match (rs.filter (·.base ≤ start)).getLast? with
    | none => .ok none
    | some r => do
      let offset ← difference? start r.base
      let stop := offset + length.toNat
      return if stop < UInt64.size ∧ stop ≤ r.bytes.size then some (r.bytes.extract offset stop)
        else none

open Region

variable {new r s : Region} {rs ts : List Region} {a : Nat}

/-! ## Regions that overlap or touch -/

/-- Two regions overlap, or one ends where the other begins. -/
def Touches (new r : Region) : Prop := r.base.toNat ≤ new.limit ∧ new.base.toNat ≤ r.limit

instance : DecidableRel Touches := fun _ _ => inferInstanceAs (Decidable (_ ∧ _))

def touched (new : Region) (rs : List Region) : List Region := rs.filter (Touches new ·)

/-- A region together with others. -/
def merged (new : Region) (ts : List Region) : Region := ts.foldl absorb new

theorem Touches.absorb (hr : Touches new r) (hs : Touches new s) : Touches (new.absorb r) s := by
  obtain ⟨hbase, hlimit⟩ := hs
  refine ⟨?_, ?_⟩
  · rw [limit_absorb hr.2 hr.1]
    omega
  · rw [toNat_base_absorb]
    omega

/-- What lies after a region that is merged is touched by that region only if by the new one. -/
theorem touches_absorb_iff (hr : Touches new r) (hgap : r.limit < s.base.toNat) :
    Touches (new.absorb r) s ↔ Touches new s := by
  obtain ⟨hbase, hlimit⟩ := hr
  have := s.base_le_limit
  unfold Touches
  rw [limit_absorb hlimit hbase, toNat_base_absorb]
  omega

theorem mem_touched : r ∈ touched new rs ↔ r ∈ rs ∧ Touches new r := by
  simp [touched]

theorem touched_eq_nil (h : ∀ r ∈ rs, ¬ Touches new r) : touched new rs = [] :=
  List.filter_eq_nil_iff.2 fun r hr => by simpa using h r hr

theorem not_touches_of_limit_lt (h : (r :: rs).Pairwise fun r s => r.limit < s.base.toNat)
    (hlt : new.limit < r.base.toNat) : ∀ s ∈ r :: rs, ¬ Touches new s := by
  refine List.forall_mem_cons.2 ⟨fun ht => by have := ht.1; omega, fun s hs ht => ?_⟩
  have := List.rel_of_pairwise_cons h hs
  have := r.base_le_limit
  have := ht.1
  omega

theorem limit_merged (h : ∀ t ∈ ts, Touches new t) :
    new.limit ≤ (merged new ts).limit ∧ ∀ t ∈ ts, t.limit ≤ (merged new ts).limit := by
  induction ts generalizing new with
  | nil => exact ⟨le_refl _, fun _ ht => absurd ht List.not_mem_nil⟩
  | cons r ts ih =>
    obtain ⟨hr, hts⟩ := List.forall_mem_cons.1 h
    obtain ⟨hnew, hlimits⟩ := ih fun t ht => hr.absorb (hts t ht)
    rw [limit_absorb hr.2 hr.1] at hnew
    exact ⟨by rw [merged, List.foldl_cons]; exact (le_max_left _ _).trans hnew,
      List.forall_mem_cons.2 ⟨(le_max_right _ _).trans hnew, hlimits⟩⟩

theorem base_merged (new : Region) (ts : List Region) :
    (merged new ts).base.toNat ≤ new.base.toNat ∧
      ∀ t ∈ ts, (merged new ts).base.toNat ≤ t.base.toNat := by
  induction ts generalizing new with
  | nil => exact ⟨le_refl _, fun _ ht => absurd ht List.not_mem_nil⟩
  | cons r ts ih =>
    obtain ⟨hnew, hbases⟩ := ih (new.absorb r)
    rw [toNat_base_absorb] at hnew
    exact ⟨hnew.trans (min_le_left _ _),
      List.forall_mem_cons.2 ⟨hnew.trans (min_le_right _ _), hbases⟩⟩

theorem lt_base_merged (hnew : a < new.base.toNat) (hts : ∀ t ∈ ts, a < t.base.toNat) :
    a < (merged new ts).base.toNat := by
  induction ts generalizing new with
  | nil => exact hnew
  | cons r ts ih =>
    obtain ⟨hr, hts⟩ := List.forall_mem_cons.1 hts
    refine ih ?_ hts
    rw [toNat_base_absorb]
    omega

theorem limit_merged_lt (hnew : new.limit < a) (h : ∀ t ∈ ts, Touches new t)
    (hts : ∀ t ∈ ts, t.limit < a) : (merged new ts).limit < a := by
  induction ts generalizing new with
  | nil => exact hnew
  | cons r ts ih =>
    obtain ⟨hr, h⟩ := List.forall_mem_cons.1 h
    obtain ⟨hlimit, hts⟩ := List.forall_mem_cons.1 hts
    refine ih ?_ (fun t ht => hr.absorb (h t ht)) hts
    rw [limit_absorb hr.2 hr.1]
    omega

theorem at?_merged (h : ∀ t ∈ ts, Touches new t) (a : Nat) :
    (merged new ts).at? a = (new.at? a).or (ts.findSome? (·.at? a)) := by
  induction ts generalizing new with
  | nil => rw [List.findSome?_nil, Option.or_none, merged, List.foldl_nil]
  | cons r ts ih =>
    obtain ⟨hr, h⟩ := List.forall_mem_cons.1 h
    rw [merged, List.foldl_cons, ← merged, ih fun t ht => hr.absorb (h t ht),
      at?_absorb hr.2 hr.1, List.findSome?_cons, Option.or_assoc]
    cases r.at? a <;> rfl

/-- To put a region in is to place it, together with what it touches, among what it does not. -/
theorem insert_eq_place (h : rs.Pairwise fun r s => r.limit < s.base.toNat) :
    Region.insert new rs = place (merged new (touched new rs)) (rs.filter (¬ Touches new ·)) := by
  induction rs generalizing new with
  | nil => rfl
  | cons r rs ih =>
    obtain ⟨hr, hrs⟩ := List.pairwise_cons.1 h
    rw [Region.insert]
    split
    · next hlt =>
      have htouches : ¬ Touches new r := fun ht => by have := ht.2; omega
      have hbase : r.base < (merged new (touched new rs)).base :=
        UInt64.lt_iff_toNat_lt.2 (lt_base_merged (r.base_le_limit.trans_lt hlt)
          fun t ht => r.base_le_limit.trans_lt (hr t (mem_touched.1 ht).1))
      have hplace : touched new (r :: rs) = touched new rs := by
        rw [touched, List.filter_cons_of_neg (by simpa using htouches), ← touched]
      rw [hplace, List.filter_cons_of_pos (by simpa using htouches), place,
        if_neg (UInt64.not_lt.2 (UInt64.le_of_lt hbase)), if_neg (UInt64.ne_of_lt hbase), ih hrs]
    · split
      · next hlt =>
        have hnone := not_touches_of_limit_lt h hlt
        have hbase : new.base < r.base := UInt64.lt_iff_toNat_lt.2 (new.base_le_limit.trans_lt hlt)
        rw [touched_eq_nil hnone, List.filter_eq_self.2 fun s hs => by simpa using hnone s hs,
          merged, List.foldl_nil, place, if_pos hbase]
      · have htouches : Touches new r := ⟨by omega, by omega⟩
        have hiff : ∀ s ∈ rs, Touches (new.absorb r) s ↔ Touches new s :=
          fun s hs => touches_absorb_iff htouches (hr s hs)
        have htouched : touched new (r :: rs) = r :: touched (new.absorb r) rs := by
          rw [touched, List.filter_cons_of_pos (by simpa using htouches), touched]
          exact congrArg _ (List.filter_congr fun s hs => by rw [decide_eq_decide, hiff s hs])
        rw [ih hrs, htouched, merged, merged, List.foldl_cons,
          List.filter_cons_of_neg (by simpa using htouches)]
        exact congrArg _ (List.filter_congr fun s hs => by rw [decide_eq_decide, hiff s hs])

/-! ## Steps of a write -/

theorem limit?_of_lt (h : r.limit < UInt64.size) :
    limit? r.base r.bytes.size = .ok (.ofNat r.limit) := if_pos h

theorem toNat_ofNat_limit (h : r.limit < UInt64.size) : (UInt64.ofNat r.limit).toNat = r.limit :=
  UInt64.toNat_ofNat_of_lt' h

theorem base_eq_iff (h : rs.Pairwise fun r s => r.limit < s.base.toNat) (hr : r ∈ rs)
    (hs : s ∈ rs) : r.base = s.base ↔ r = s :=
  ⟨fun hbase => eq_of_mem h hr hs (hbase ▸ s.base_le_limit) (hbase ▸ r.base_le_limit),
    congrArg Region.base⟩

theorem find?_base (h : rs.Pairwise fun r s => r.limit < s.base.toNat) (hr : r ∈ rs) :
    rs.find? (·.base == r.base) = some r := by
  obtain ⟨s, hs⟩ := Option.isSome_iff_exists.1
    (List.find?_isSome (p := fun s : Region => s.base == r.base).2 ⟨r, hr, beq_self_eq_true _⟩)
  have hbase : s.base = r.base := by simpa using List.find?_some hs
  rw [hs, (base_eq_iff h (List.mem_of_find?_eq_some hs) hr).1 hbase]

theorem touching?_eq (h : Spaced rs) (hnew : new.limit < UInt64.size) :
    touching? new.base (.ofNat new.limit) rs = .ok ((touched new rs).map (·.base)) := by
  obtain ⟨hgaps, hbounded⟩ := h
  induction rs with
  | nil => rfl
  | cons r rs ih =>
    obtain ⟨hr, hrs⟩ := List.pairwise_cons.1 hgaps
    obtain ⟨hlimit, hlimits⟩ := List.forall_mem_cons.1 hbounded
    rw [touching?]
    split
    · next hlt =>
      rw [UInt64.lt_iff_toNat_lt, toNat_ofNat_limit hnew] at hlt
      have hnone := not_touches_of_limit_lt (List.pairwise_cons.2 ⟨hr, hrs⟩) hlt
      rw [touched_eq_nil hnone, List.map_nil]
    · next hle =>
      rw [UInt64.lt_iff_toNat_lt, toNat_ofNat_limit hnew] at hle
      have hiff : new.base ≤ .ofNat r.limit ↔ Touches new r := by
        rw [UInt64.le_iff_toNat_le, toNat_ofNat_limit hlimit]
        exact ⟨fun hle' => ⟨Nat.not_lt.1 hle, hle'⟩, And.right⟩
      rw [limit?_of_lt hlimit, ih hrs hlimits]
      simp only [bind, Except.bind, pure, Except.pure, hiff, touched, List.filter_cons]
      by_cases htouches : Touches new r <;> simp [htouches]

theorem hull?_eq (h : Spaced rs) (hnew : new.limit < UInt64.size) (hmem : ∀ t ∈ ts, t ∈ rs)
    (htouches : ∀ t ∈ ts, Touches new t) :
    hull? rs new.base (.ofNat new.limit) (ts.map (·.base)) =
      .ok ((merged new ts).base, .ofNat (merged new ts).limit) := by
  induction ts generalizing new with
  | nil => rfl
  | cons r ts ih =>
    obtain ⟨hr, hmem⟩ := List.forall_mem_cons.1 hmem
    obtain ⟨htouch, htouches⟩ := List.forall_mem_cons.1 htouches
    have hlimit := h.bounded r hr
    have habsorb := limit_absorb htouch.2 htouch.1
    have hmax : max (UInt64.ofNat new.limit) (.ofNat r.limit) = .ofNat (new.absorb r).limit := by
      rw [← UInt64.toNat_inj, Word.toNat_max, toNat_ofNat_limit hnew, toNat_ofNat_limit hlimit,
        toNat_ofNat_limit (by omega), habsorb]
    have hmin : min new.base r.base = (new.absorb r).base := by rw [absorb_eq]
    rw [List.map_cons, hull?, regionAt?, find?_base h.gaps hr]
    simp only [bind, Except.bind]
    rw [limit?_of_lt hlimit]
    simp only [hmax, hmin]
    exact ih (by omega) hmem fun t ht => htouch.absorb (htouches t ht)

theorem difference?_of_le {a b : UInt64} (h : b.toNat ≤ a.toNat) :
    difference? a b = .ok (a.toNat - b.toNat) := if_pos (UInt64.le_iff_toNat_le.2 h)

section Buffer

variable {buffer : Region}

/-- To copy a region into a buffer is to merge the two. -/
theorem copy?_eq (hbase : buffer.base.toNat ≤ r.base.toNat) (hlimit : r.limit ≤ buffer.limit) :
    copy? r.bytes buffer.bytes (r.base.toNat - buffer.base.toNat) =
      .ok (r.absorb buffer).bytes := by
  unfold limit at hlimit
  have hbelow : buffer.below r.base.toNat =
      buffer.bytes.extract 0 (r.base.toNat - buffer.base.toNat) := by
    unfold below limit
    split
    · have hall : r.base.toNat - buffer.base.toNat = buffer.bytes.size := by omega
      rw [hall, ByteArray.extract_zero_size]
    · rfl
  have habove : r.limit - buffer.base.toNat =
      r.base.toNat - buffer.base.toNat + r.bytes.size := by
    unfold limit
    omega
  rw [copy?, if_pos (by omega), absorb_eq, hbelow, above, habove]

theorem base_absorb_buffer (hbase : buffer.base.toNat ≤ r.base.toNat) :
    (r.absorb buffer).base = buffer.base := by
  rw [← UInt64.toNat_inj, toNat_base_absorb]
  omega

/-- Gathering succeeds, takes the regions out, and lays their bytes over the buffer. -/
theorem gather?_eq (buffer : Region) (hrs : rs.Pairwise fun r s => r.limit < s.base.toNat)
    (hts : ts.Pairwise fun r s => r.limit < s.base.toNat) (hmem : ∀ t ∈ ts, t ∈ rs)
    (hbase : ∀ t ∈ ts, buffer.base.toNat ≤ t.base.toNat)
    (hlimit : ∀ t ∈ ts, t.limit ≤ buffer.limit) :
    ∃ buffer' : Region, buffer'.base = buffer.base ∧ buffer'.limit = buffer.limit ∧
      gather? buffer.base (ts.map (·.base)) rs buffer.bytes =
        .ok (rs.filter (· ∉ ts), buffer'.bytes) ∧
      ∀ a, buffer'.at? a = (ts.findSome? (·.at? a)).or (buffer.at? a) := by
  induction ts generalizing rs buffer with
  | nil => exact ⟨buffer, rfl, rfl, by simp [gather?], fun a => by simp⟩
  | cons t ts ih =>
    obtain ⟨htmem, hmem⟩ := List.forall_mem_cons.1 hmem
    obtain ⟨htbase, hbase⟩ := List.forall_mem_cons.1 hbase
    obtain ⟨htlimit, hlimit⟩ := List.forall_mem_cons.1 hlimit
    obtain ⟨ht, hts⟩ := List.pairwise_cons.1 hts
    have hcopied := base_absorb_buffer htbase
    have hle : buffer.base.toNat ≤ t.limit := htbase.trans t.base_le_limit
    have hge : t.base.toNat ≤ buffer.limit := t.base_le_limit.trans htlimit
    have hcopiedLimit : (t.absorb buffer).limit = buffer.limit := by
      rw [limit_absorb hge hle]
      exact max_eq_right htlimit
    have hother : ∀ s ∈ rs, (s.base != t.base) = decide (s ≠ t) := fun s hs => by
      rw [Bool.eq_iff_iff, bne_iff_ne, decide_eq_true_iff, ne_eq, base_eq_iff hrs hs htmem]
    have hremaining : ∀ s ∈ ts, s ∈ rs.filter (·.base != t.base) := by
      intro s hs
      refine List.mem_filter.2 ⟨hmem s hs, ?_⟩
      rw [hother s (hmem s hs), decide_eq_true_iff]
      rintro rfl
      have := ht s hs
      have := s.base_le_limit
      omega
    obtain ⟨buffer', hbase', hlimit', hgather, hat⟩ := @ih _ (t.absorb buffer)
      (hrs.filter _) hts hremaining (by rwa [hcopied]) (by rwa [hcopiedLimit])
    refine ⟨buffer', hbase'.trans hcopied, hlimit'.trans hcopiedLimit, ?_, fun a => ?_⟩
    · rw [List.map_cons, gather?, find?_base hrs htmem]
      simp only [difference?_of_le htbase, copy?_eq htbase htlimit, bind, Except.bind]
      rw [← hcopied, hgather, List.filter_filter]
      refine congrArg (fun rest => Except.ok (rest, _)) (List.filter_congr fun s hs => ?_)
      rw [hother s hs, Bool.and_comm]
      simp
    · rw [hat, at?_absorb hge hle, List.findSome?_cons]
      cases htat : t.at? a with
      | none => rfl
      | some b =>
        have hnone : ts.findSome? (·.at? a) = none := List.findSome?_eq_none_iff.2 fun s hs => by
          have := (range_of_at? htat).2
          have := ht s hs
          exact at?_eq_none_iff.2 (.inl (by omega))
        rw [hnone, Option.none_or]

end Buffer

theorem limit_zeros {base : UInt64} (h : base.toNat ≤ a) :
    (⟨base, zeroBytes (a - base.toNat)⟩ : Region).limit = a := by
  rw [limit, size_zeroBytes, Nat.add_sub_cancel' h]

/-- Once the old regions and then the new bytes are copied into it, the buffer of zeros is the new
region together with the old ones. -/
theorem exists_gathered (new : Region) (h : rs.Pairwise fun r s => r.limit < s.base.toNat) :
    let whole := merged new (touched new rs)
    ∃ buffer, gather? whole.base ((touched new rs).map (·.base)) rs
        (zeroBytes (whole.limit - whole.base.toNat)) = .ok (rs.filter (¬ Touches new ·), buffer) ∧
      copy? new.bytes buffer (new.base.toNat - whole.base.toNat) = .ok whole.bytes := by
  have htouches : ∀ t ∈ touched new rs, Touches new t := fun t ht => (mem_touched.1 ht).2
  obtain ⟨hnewLimit, hlimits⟩ := limit_merged htouches
  obtain ⟨hnewBase, hbases⟩ := base_merged new (touched new rs)
  have hbytes := at?_merged htouches
  generalize merged new (touched new rs) = whole at *
  have hzeros := limit_zeros whole.base_le_limit
  have hmem : ∀ t ∈ touched new rs, t ∈ rs := fun t ht => (mem_touched.1 ht).1
  have hgaps : (touched new rs).Pairwise fun r s => r.limit < s.base.toNat := h.filter _
  obtain ⟨buffer, hbase, hlimit, hgather, hgathered⟩ :=
    gather?_eq ⟨whole.base, zeroBytes (whole.limit - whole.base.toNat)⟩ h hgaps hmem hbases
      fun t ht => (hlimits t ht).trans_eq hzeros.symm
  change buffer.base = whole.base at hbase
  rw [hzeros] at hlimit
  rw [← hbase] at hnewBase
  rw [← hlimit] at hnewLimit
  have hsame : new.absorb buffer = whole := by
    have hold : new.base.toNat ≤ buffer.limit := new.base_le_limit.trans hnewLimit
    have hnew : buffer.base.toNat ≤ new.limit := hnewBase.trans new.base_le_limit
    refine (eq_of_at? ?_ ?_ fun a hge hlt => ?_).symm
    · rw [base_absorb_buffer hnewBase, hbase]
    · rw [limit_absorb hold hnew, max_eq_right hnewLimit, hlimit]
    · obtain ⟨b, hb⟩ := Option.isSome_iff_exists.1 (isSome_at?_iff.2 ⟨hge, hlt⟩)
      rw [at?_absorb hold hnew, hgathered a, ← Option.or_assoc, ← hbytes a, hb, Option.some_or]
  refine ⟨buffer.bytes, hgather.trans ?_, ?_⟩
  · refine congrArg (fun rest => Except.ok (rest, _)) (List.filter_congr fun r hr => ?_)
    rw [decide_eq_decide, mem_touched, not_and]
    exact ⟨fun hnot => hnot hr, fun hnot _ => hnot⟩
  · rw [← hbase, copy?_eq hnewBase hnewLimit, hsame]

/-- A write that fits goes through and leaves the regions with the new one put in. -/
theorem write?_of_lt (new : Region) (h : Spaced rs) (hnew : new.limit < UInt64.size) :
    write? rs new.base new.bytes = .ok (Region.insert new rs) := by
  have htouches : ∀ t ∈ touched new rs, Touches new t := fun t ht => (mem_touched.1 ht).2
  have hmem : ∀ t ∈ touched new rs, t ∈ rs := fun t ht => (mem_touched.1 ht).1
  have hwhole : (merged new (touched new rs)).limit < UInt64.size :=
    limit_merged_lt hnew htouches fun t ht => h.bounded t (hmem t ht)
  have hle := (merged new (touched new rs)).base_le_limit
  rw [← toNat_ofNat_limit hwhole] at hle
  obtain ⟨buffer, hgather, hcopy⟩ := exists_gathered new h.gaps
  rw [write?, limit?_of_lt hnew]
  simp only [bind, Except.bind]
  simp only [touching?_eq h hnew, hull?_eq h hnew hmem htouches, difference?_of_le hle,
    toNat_ofNat_limit hwhole, hgather, difference?_of_le (base_merged new _).1, hcopy,
    insert_eq_place h.gaps]
  rfl

theorem write?_of_not_lt {address : UInt64} {bytes : ByteArray}
    (h : ¬ address.toNat + bytes.size < UInt64.size) :
    write? rs address bytes = .error .sum := by
  rw [write?, limit?, if_neg h]
  rfl

/-! ## Steps of a read -/

theorem mem_of_last {start : UInt64} (hlast : (rs.filter (·.base ≤ start)).getLast? = some r) :
    r ∈ rs ∧ r.base.toNat ≤ start.toNat := by
  simpa [UInt64.le_iff_toNat_le] using List.mem_of_getLast? hlast

/-- Only the last region that does not begin after some bytes can hold them. -/
theorem eq_last_of_covers {start : UInt64} {length : Nat}
    (h : rs.Pairwise fun r s => r.limit < s.base.toNat)
    (hlast : (rs.filter (·.base ≤ start)).getLast? = some r) (hs : s ∈ rs)
    (hcovers : s.covers start.toNat length = true) : s = r := by
  obtain ⟨before, hbefore⟩ := List.getLast?_eq_some_iff.1 hlast
  obtain ⟨hbase, hlimit⟩ := Region.covers_iff.1 hcovers
  obtain ⟨-, hr⟩ := mem_of_last hlast
  have hmem : s ∈ before ++ [r] := by
    rw [← hbefore, List.mem_filter, decide_eq_true_iff, UInt64.le_iff_toNat_le]
    exact ⟨hs, hbase⟩
  rcases List.mem_append.1 hmem with hs' | hs'
  · have hgap : s.limit < r.base.toNat := by
      have hfiltered := h.filter (·.base ≤ start)
      rw [hbefore] at hfiltered
      exact (List.pairwise_append.1 hfiltered).2.2 s hs' r List.mem_cons_self
    omega
  · exact List.mem_singleton.1 hs'

theorem find?_covers_of_none {start : UInt64} {length : Nat}
    (hlast : (rs.filter (·.base ≤ start)).getLast? = none) :
    rs.find? (·.covers start.toNat length) = none := by
  rw [List.getLast?_eq_none_iff, List.filter_eq_nil_iff] at hlast
  refine List.find?_eq_none.2 fun s hs hcovers => hlast s hs ?_
  rw [decide_eq_true_iff, UInt64.le_iff_toNat_le]
  exact (Region.covers_iff.1 hcovers).1

theorem find?_covers_of_last {start : UInt64} {length : Nat}
    (h : rs.Pairwise fun r s => r.limit < s.base.toNat)
    (hlast : (rs.filter (·.base ≤ start)).getLast? = some r) :
    rs.find? (·.covers start.toNat length) =
      if r.covers start.toNat length = true then some r else none := by
  have honly : ∀ s ∈ rs, s.covers start.toNat length = true → s = r :=
    fun s hs => eq_last_of_covers h hlast hs
  split
  · next hcovers =>
    obtain ⟨s, hs⟩ := Option.isSome_iff_exists.1 (List.find?_isSome
      (p := fun s : Region => s.covers start.toNat length).2 ⟨r, (mem_of_last hlast).1, hcovers⟩)
    rw [hs, honly s (List.mem_of_find?_eq_some hs) (by simpa using List.find?_some hs)]
  · next hcovers =>
    exact List.find?_eq_none.2 fun s hs hs' => hcovers (honly s hs hs' ▸ hs')

theorem read?_eq (m : SparseMemory) (start length : UInt64) :
    read? m.regions start length = .ok (m.read start length) := by
  unfold read? SparseMemory.read
  split
  · rfl
  cases hlast : (m.regions.filter (·.base ≤ start)).getLast? with
  | none =>
    rw [find?_covers_of_none hlast]
    rfl
  | some r =>
    obtain ⟨hr, hbase⟩ := mem_of_last hlast
    have hbounded := m.spaced.bounded r hr
    have hcovers : (start.toNat - r.base.toNat + length.toNat < UInt64.size ∧
        start.toNat - r.base.toNat + length.toNat ≤ r.bytes.size) ↔
        r.covers start.toNat length.toNat = true := by
      rw [Region.covers_iff]
      unfold limit at hbounded ⊢
      omega
    dsimp only
    rw [difference?_of_le hbase, find?_covers_of_last m.spaced.gaps hlast]
    simp only [bind, Except.bind, pure, Except.pure, hcovers]
    split
    · rw [Option.map_some, Region.slice, Nat.sub_add_comm hbase]
    · rfl

end RawProfile.InPlace
