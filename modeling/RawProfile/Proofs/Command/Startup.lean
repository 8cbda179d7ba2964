import RawProfile.Proofs.Command.Sections
import RawProfile.Proofs.Session.Steps

/-!
# The session of the specimen

What the registrations at the start of the specimen leave. The sentinel does no more than arm the
gate. Each record lies where the one before it ends, and its counters do too, so the spans of both
grow at their ends (`registry_register`); a section without parts has no span.
-/

namespace RawProfile

theorem Span.hull_ofLength {start length next more total : UInt64}
    (hnext : next.toNat = start.toNat + length.toNat)
    (htotal : total.toNat = length.toNat + more.toNat)
    (hfits : start.toNat + total.toNat < UInt64.size) :
    (ofLength start length).hull (ofLength next more) = ofLength start total := by
  refine ext_toNat ?_ ?_
  · rw [toNat_start_hull]
    change min start.toNat next.toNat = start.toNat
    omega
  · rw [toNat_limit_hull, toNat_limit_ofLength, toNat_limit_ofLength, toNat_limit_ofLength]
    omega

namespace Specimen

/-- The span of a section of so many parts, all of one length, if there are any. -/
def stretch (base : UInt64) (length n : Nat) : Option Span :=
  if n = 0 then none else some (.ofLength base (.ofNat (length * n)))

theorem widen_stretch {base next more : UInt64} {length n : Nat}
    (hnext : next.toNat = base.toNat + length * n) (hmore : more.toNat = length)
    (hfits : base.toNat + length * (n + 1) < UInt64.size) :
    Registry.widen (stretch base length n) (.ofLength next more) = stretch base length (n + 1) := by
  have htotal : (UInt64.ofNat (length * (n + 1))).toNat = length * (n + 1) :=
    UInt64.toNat_ofNat_of_lt' (by omega)
  rw [stretch, stretch, if_neg (Nat.succ_ne_zero n), Nat.mul_succ]
  rw [Nat.mul_succ] at htotal hfits
  by_cases hn : n = 0
  · subst hn
    have hstart : next = base := UInt64.toNat_inj.1 hnext
    have hlength : more = .ofNat (length * 0 + length) := by
      rw [← UInt64.toNat_inj, htotal, hmore, Nat.mul_zero, Nat.zero_add]
    rw [if_pos rfl, hstart, ← hlength]
    rfl
  · have hseen : (UInt64.ofNat (length * n)).toNat = length * n :=
      UInt64.toNat_ofNat_of_lt' (by omega)
    rw [if_neg hn]
    refine congrArg some (Span.hull_ofLength ?_ ?_ ?_)
    · rw [hnext, hseen]
    · rw [htotal, hseen, hmore]
    · rw [htotal]
      exact hfits

/-! ## Registrations -/

def registry (size : Size) (n : Nat) : Registry where
  recordSize := Width.native.recordSize
  sentinel := some sentinel
  data := stretch dataBase 64 n
  counters := stretch countersBase (8 * size.counters.toNat) n
  registered := n

variable {size : Size} {n i : Nat}

theorem counters_site (size : Size) (i : Nat) : (site size i).counters =
    .ofLength (countersAddress size i) (size.counters.toUInt64 * counterSize) := by
  have hsite : site size i = .ofRecord (recordAddress i) (record size i) := rfl
  have hbase : (site size i).counterBase = countersAddress size i := by
    rw [hsite, RecordSite.counterBase_ofRecord, record]
    grind
  rw [RecordSite.counters, hbase]
  rfl

theorem recordAddress_ne_sentinel (hi : i ≤ 4096) : recordAddress i ≠ sentinel := by
  intro h
  have haddress := toNat_recordAddress hi
  rw [h, toNat_dataBase, show sentinel.toNat = 0x1000 from rfl] at haddress
  omega

theorem registry_register (h : size.Bounded) (hn : n < size.functions.toNat) :
    ((registry size n).registerData (site size n)).value.2 = registry size (n + 1) := by
  have hfew := h.functions
  have hall := h.mul_counters_le (i := n + 1) hn
  have hsentinel : (registry size n).sentinel ≠ some (site size n).address :=
    fun heq => recordAddress_ne_sentinel (i := n) (by omega) (Option.some.inj heq).symm
  have hdata : Registry.widen (stretch dataBase 64 n)
      (.ofLength (recordAddress n) Width.native.recordSize) = stretch dataBase 64 (n + 1) := by
    refine widen_stretch (toNat_recordAddress (by omega)) rfl ?_
    rw [toNat_dataBase]
    simp only [UInt64.size]
    omega
  have hcounters : Registry.widen (stretch countersBase (8 * size.counters.toNat) n)
      (site size n).counters = stretch countersBase (8 * size.counters.toNat) (n + 1) := by
    rw [counters_site]
    refine widen_stretch ?_ (site size n).toNat_counters_length ?_
    · rw [toNat_countersAddress h (Nat.le_of_lt hn), Nat.mul_assoc, Nat.mul_comm n]
    · rw [toNat_countersBase, Nat.mul_assoc, Nat.mul_comm size.counters.toNat]
      simp only [UInt64.size]
      omega
  rw [Registry.value_registerData_of_ne hsentinel]
  change ({ recordSize := Width.native.recordSize
            sentinel := some sentinel
            data := Registry.widen (stretch dataBase 64 n)
              (.ofLength (recordAddress n) Width.native.recordSize)
            counters := Registry.widen (stretch countersBase _ n) (site size n).counters
            registered := n + 1 } : Registry) = _
  rw [hdata, hcounters]
  rfl

theorem value_register (s : Session) (site : RecordSite) :
    (session.register s (.registerData site)).value =
      { s with registry := (s.registry.registerData site).value.2, gate := s.gate.arm.2 } := by
  rw [session.register, Logged.value_bind, Session.value_registerData]
  rfl

theorem foldl_register (h : size.Bounded) (hn : n ≤ size.functions.toNat) :
    (List.range n).foldl
        (fun s i => (session.register s (.registerData (site size i))).value)
        { registry := registry size 0, gate := .armed } =
      ({ registry := registry size n, gate := .armed } : Session) := by
  induction n with
  | zero => rfl
  | succ n ih =>
    rw [List.range_succ, List.foldl_append, ih (by omega), List.foldl_cons, List.foldl_nil]
    rw [value_register]
    exact congrArg (fun r => ({ registry := r, gate := .armed } : Session)) (registry_register h hn)

def finalRegistry (size : Size) : Registry :=
  { registry size size.functions.toNat with names := stretch namesBase 1 size.namesLength.toNat }

/-- The session is ready to dump what was registered. -/
theorem value_session (h : size.Bounded) : (session size).value =
    { registry := finalRegistry size, gate := .armed } := by
  have hstart : (session.register ((Session.ofWidth .native).withSentinel sentinel)
      (.registerData { address := sentinel })).value =
        { registry := registry size 0, gate := .armed } := by
    rw [value_register, Registry.value_registerData_of_eq rfl]
    rfl
  rw [session, Logged.value_foldlM, registrations, List.cons_append, List.foldl_cons, hstart,
    List.foldl_append, List.foldl_map, foldl_register h (Nat.le_refl _)]
  by_cases hnames : size.namesLength = 0
  · have hnone : stretch namesBase 1 size.namesLength.toNat = none := by
      rw [hnames]
      rfl
    rw [if_pos hnames, finalRegistry, hnone]
    rfl
  · have hpos : size.namesLength.toNat ≠ 0 := fun hzero => hnames (UInt64.toNat_inj.1 hzero)
    have hsome : stretch namesBase 1 size.namesLength.toNat =
        some (.ofLength namesBase size.namesLength) := by
      rw [stretch, if_neg hpos, Nat.one_mul, UInt64.ofNat_toNat]
    rw [if_neg hnames, finalRegistry, hsome]
    rfl

end Specimen

end RawProfile
