import RawProfile.Proofs.Dump.Obstacle
import RawProfile.Proofs.Dump.Protocol
import RawProfile.Proofs.Layout.Limits
import RawProfile.Proofs.Registry.Roster
import RawProfile.Proofs.SegmentWriter.Checked
import RawProfile.Transport.Scripted

/-!
# No sum and no product of a dump fails

Registration, planning and sending once more, with a check in front of every sum and every product
that has to fit into a word: `Registry.replay?`, `Dump.plan?` and `Dump.writeTo?`. `dump_checked`
says that they come to the same as the unchecked ones over any registrations, memory, width and
transport. Too large a file is refused as a layout before any size of it is used.
-/

namespace RawProfile

/-! ## Registration -/

namespace RecordSite

/-- Where the counters lie. -/
def counters? (site : RecordSite) : Except WordFault Span := do
  return .ofLength site.counterBase (← Word.mul? site.numCounters.toUInt64 counterSize)

theorem counters?_eq (site : RecordSite) : site.counters? = .ok site.counters := by
  have hlt := site.numCounters.toNat_lt
  have hsize : site.numCounters.toUInt64.toNat * counterSize.toNat < UInt64.size := by
    rw [UInt32.toNat_toUInt64, show counterSize.toNat = 8 from rfl, UInt64.size]
    omega
  rw [counters?, ok_of_toNat_mul hsize]
  rfl

end RecordSite

namespace Registry

def registerData? (r : Registry) (site : RecordSite) :
    Except WordFault (Logged (Registration × Registry)) :=
  if r.isSentinel site.address then
    return ⟨(.skippedSentinel, r), [.sentinelSkipped site.address]⟩
  else do
    let counters ← site.counters?
    let registered ← Word.sum? r.registered 1
    return ⟨(.recorded, { r with
        data := widen r.data (.ofLength site.address r.recordSize)
        counters := widen r.counters counters
        registered }),
      [.recordRegistered site.address site.numCounters counters.start]⟩

def step? (r : Registry) : Step → Except WordFault Registry
  | .registerData site => do return (← r.registerData? site).value.2
  | .registerNames start length => return (r.registerNames start length).value
  | .withSentinel address => return r.withSentinel address
  | .reset => return r.reset

def replay? (r : Registry) (steps : List Step) : Except WordFault Registry := steps.foldlM step? r

/-- The step is a registration. -/
def Step.registers : Step → Bool
  | .registerData _ | .registerNames _ _ => true
  | .withSentinel _ | .reset => false

theorem registerData?_eq {r : Registry} (h : r.registered + 1 < UInt64.size) (site : RecordSite) :
    r.registerData? site = .ok (r.registerData site) := by
  unfold registerData? registerData
  split
  · rfl
  · rw [site.counters?_eq, Word.sum?_of_lt h]
    rfl

theorem step?_eq {r : Registry} (s : Step)
    (h : r.registered + (if s.registers then 1 else 0) < UInt64.size) :
    r.step? s = .ok (r.step s) := by
  cases s with
  | registerData site =>
    rw [step?, registerData?_eq h]
    rfl
  | registerNames start length => rfl
  | withSentinel address => rfl
  | reset => rfl

theorem registered_step_le (r : Registry) (s : Step) :
    (r.step s).registered ≤ r.registered + if s.registers then 1 else 0 := by
  cases s with
  | registerData site =>
    by_cases h : r.sentinel = some site.address
    · rw [step, value_registerData_of_eq h]
      exact Nat.le_succ _
    · rw [step, value_registerData_of_ne h]
      exact Nat.le_refl _
  | registerNames start length => exact Nat.le_succ _
  | withSentinel address => exact Nat.le_refl _
  | reset => exact Nat.zero_le _

theorem replay?_eq {r : Registry} {steps : List Step}
    (h : r.registered + steps.countP Step.registers < UInt64.size) :
    r.replay? steps = .ok (r.replay steps) := by
  induction steps generalizing r with
  | nil => rfl
  | cons s steps ih =>
    rw [List.countP_cons] at h
    have hstep := registered_step_le r s
    rw [replay?, List.foldlM_cons, step?_eq s (by omega)]
    exact ih (by omega)

end Registry

/-! ## Planning -/

namespace Word

/-- How many blocks of `b` it takes to hold `a`: the quotient, and one more for a remainder. -/
def ceilDiv? (a b : UInt64) : Except WordFault UInt64 :=
  if a % b = 0 then .ok (a / b) else add? (a / b) 1

theorem ceilDiv?_eq (a : UInt64) {b : UInt64} (h : b ≠ 0) : ceilDiv? a b = .ok (ceilDiv a b) := by
  have hpos : 0 < b.toNat := Nat.pos_of_ne_zero fun h0 => h (UInt64.toNat_inj.1 h0)
  have hdiv := Nat.div_add_mod a.toNat b.toNat
  have hmod := Nat.mod_lt a.toNat hpos
  have hquotient : (a / b).toNat = a.toNat / b.toNat := UInt64.toNat_div a b
  have hremainder : (a % b).toNat = a.toNat % b.toNat := UInt64.toNat_mod a b
  unfold ceilDiv?
  split
  · next hzero =>
    rw [← UInt64.toNat_inj, hremainder] at hzero
    change a.toNat % b.toNat = 0 at hzero
    refine congrArg Except.ok (UInt64.toNat_inj.1 ?_)
    rw [toNat_ceilDiv, hquotient, eq_comm, Nat.div_eq_iff hpos]
    rw [Nat.mul_comm] at hdiv
    omega
  · next hrest =>
    rw [← UInt64.toNat_inj, hremainder] at hrest
    change a.toNat % b.toNat ≠ 0 at hrest
    refine add?_eq_ok.2 ?_
    rw [toNat_ceilDiv, hquotient, show (1 : UInt64).toNat = 1 from rfl, Nat.div_eq_iff hpos,
      Nat.succ_mul]
    rw [Nat.mul_comm] at hdiv
    omega

end Word

namespace Layout

def ofSpans? (recordSize data counters names : UInt64) : Except WordFault Layout := do
  let numRecords ← Word.ceilDiv? data recordSize
  let numCounters ← Word.ceilDiv? counters counterSize
  return { ofSpans recordSize data counters names with numRecords, numCounters }

def compute? (recordSize data counters names : UInt64) :
    Except WordFault (Except LayoutError Layout) :=
  if recordSize = 0 ∨ recordSize % 8 ≠ 0 then return .error (.invalidRecordSize recordSize)
  else do
    let layout ← ofSpans? recordSize data counters names
    return do
      let _ ← layout.totalLength
      return layout

theorem compute?_eq (recordSize data counters names : UInt64) :
    compute? recordSize data counters names = .ok (compute recordSize data counters names) := by
  unfold compute? compute
  split
  · rfl
  · next h =>
    have hrecords := Word.ceilDiv?_eq data (not_or.1 h).1
    have hcounters := Word.ceilDiv?_eq counters (b := counterSize) (by decide)
    rw [ofSpans?, hrecords, hcounters]
    rfl

variable {recordSize data counters names : UInt64}

/-- Spans whose file does not fit are refused for it, and no others. -/
theorem exists_overflow_iff :
    (∃ m, compute recordSize data counters names = .error (.overflow m)) ↔
      ValidSize recordSize ∧
        2 ^ 64 ≤ fileSize recordSize.toNat data.toNat counters.toNat names.toNat := by
  constructor
  · rintro ⟨m, h⟩
    refine ⟨(compute_eq_overflow_iff.1 h).1, Nat.not_lt.1 fun hlt => ?_⟩
    obtain ⟨l, hl⟩ := exists_compute_iff.2 ⟨(compute_eq_overflow_iff.1 h).1, hlt⟩
    rw [h] at hl
    cases hl
  · rintro ⟨hvalid, hge⟩
    cases h : compute recordSize data counters names with
    | ok l => exact absurd (exists_compute_iff.1 ⟨l, h⟩).2 (Nat.not_lt.2 hge)
    | error e =>
      rcases compute_eq_error_iff.1 h with ⟨hinvalid, -⟩ | ⟨-, m, rfl, -⟩
      · exact absurd hvalid hinvalid
      · exact ⟨m, rfl⟩

end Layout

theorem foldlM_sum?_eq {ns : List Nat} {a : Nat} (h : a + ns.sum < UInt64.size) :
    ns.foldlM Word.sum? a = .ok (a + ns.sum) := by
  induction ns generalizing a with
  | nil => rfl
  | cons n ns ih =>
    rw [List.sum_cons] at h ⊢
    rw [List.foldlM_cons, Word.sum?_of_lt (by omega), ← Nat.add_assoc]
    exact ih (by omega)

def Plan.totalLength? (p : Plan) : Except WordFault Nat :=
  [p.data.size, p.counters.size, p.layout.numBitmapBytes.toNat, p.layout.paddingAfterBitmap.toNat,
    p.names.size, p.layout.paddingAfterNames.toNat].foldlM Word.sum? Header.byteCount

theorem Plan.totalLength?_eq {p : Plan} (h : p.totalLength < UInt64.size) :
    p.totalLength? = .ok p.totalLength := by
  have hsum : p.totalLength = Header.byteCount + [p.data.size, p.counters.size,
      p.layout.numBitmapBytes.toNat, p.layout.paddingAfterBitmap.toNat, p.names.size,
      p.layout.paddingAfterNames.toNat].sum := by
    simp only [totalLength, List.sum_cons, List.sum_nil]
    omega
  rw [hsum] at h ⊢
  exact foldlM_sum?_eq h

namespace Dump

def layout? (d : Dump) : Except WordFault (Except DumpError Layout) :=
  if d.image.isLive ∧ d.width ≠ .native then return .error (.widthMismatch d.width)
  else do
    let e := d.registry.extents
    return (← Layout.compute? d.registry.recordSize e.data.length e.counters.length
      e.names.length).mapError .layout

def resolve? (d : Dump) (l : Layout) : ExceptT DumpError (Except WordFault) Plan := do
  let data ← ofExcept (d.readSection .data d.starts.data (← l.dataBytes))
  let counters ← ofExcept (d.readSection .counters d.starts.counters (← l.counterBytes))
  let names ← ofExcept (d.readSection .names d.starts.names l.namesSize)
  return { header := l.header d.width d.starts, layout := l, data, counters, names }

def plan? (d : Dump) : Except WordFault (Logged (Except DumpError Plan)) := do
  match ← d.layout? with
  | .error e => return pure (.error e)
  | .ok l =>
    return ⟨← (d.resolve? l).run,
      [.layoutComputed l.numRecords l.numCounters l.namesSize l.paddingAfterNames]⟩

variable {d : Dump} {l : Layout} {p : Plan}

theorem layout?_eq (d : Dump) : d.layout? = .ok d.layout := by
  unfold layout? layout
  split
  · rfl
  · dsimp only
    rw [Layout.compute?_eq]
    rfl

theorem run_ofExcept_bind {α β : Type} {x : Except DumpError α}
    {f : α → ExceptT DumpError (Except WordFault) β} {g : α → Except DumpError β}
    (h : ∀ a, (f a).run = .ok (g a)) : (ofExcept x >>= f).run = .ok (x >>= g) := by
  cases x with
  | error e => rfl
  | ok a => exact h a

theorem resolve?_eq (h : d.layout = .ok l) : (d.resolve? l).run = .ok (d.resolve l) := by
  have hfits := fits_of_layout h
  rw [resolve_eq h, resolve?, hfits.dataBytes, hfits.counterBytes]
  refine run_ofExcept_bind fun data => ?_
  refine run_ofExcept_bind fun counters => ?_
  exact run_ofExcept_bind fun names => rfl

theorem plan?_eq (d : Dump) : d.plan? = .ok d.plan := by
  rw [plan?, layout?_eq, plan]
  cases h : d.layout with
  | error e => rfl
  | ok l =>
    change (do return ⟨← (d.resolve? l).run, _⟩ : Except WordFault (Logged _)) = _
    rw [resolve?_eq h]
    rfl

/-! ## Sending -/

variable {σ : Type} [Transport σ]

def emit? (phase : Phase) (w : SegmentWriter) :
    List (Phase × Segment) → CheckedRun σ (Except ShortWrite Unit × SegmentWriter × Phase)
  | [] => return (.ok (), w, phase)
  | (next, segment) :: rest => do
    if phase ≠ next then (Run.report (.phaseChanged phase next) : Run σ Unit)
    match ← w.sendSegments? [segment] with
    | (.error e, w) => return (.error e, w, next)
    | (.ok (), w) => emit? next w rest

def send? (plan : Plan) (fileName : String) : CheckedRun σ (Except DumpError Summary) := do
  (Run.report (.phaseChanged .idle .openingTransport) : Run σ Unit)
  match ← (Run.openFile fileName : Run σ _) with
  | .error e =>
    let name ← (Run.transportName : Run σ String)
    (Run.report (.openFailed fileName e.message name) : Run σ Unit)
    (Run.report (.phaseChanged .openingTransport .closed) : Run σ Unit)
    return .error (.cannotOpen e)
  | .ok handle =>
    let (result, w, phase) ← emit? .openingTransport { handle } plan.segments
    (Run.close handle : Run σ Unit)
    (Run.report (.phaseChanged phase .closed) : Run σ Unit)
    match result with
    | .error e => return .error (.shortWrite e)
    | .ok () =>
      (Run.report (.fileWritten w.bytesWritten) : Run σ Unit)
      return .ok ⟨plan.header, w.bytesWritten⟩

def writeTo? (d : Dump) (fileName : String) :
    CheckedRun σ (Except DumpError Summary × Dump) := do
  match ← (Run.ofLogged (← d.plan?) : Run σ _) with
  | .error e => return (.error e, { d with phase := .idle })
  | .ok plan => return (← send? plan fileName, { d with phase := .closed })

def bytesIn (segments : List (Phase × Segment)) : Nat := (segments.map (·.2.length)).sum

theorem bytesIn_cons (phase : Phase) (segment : Segment) (rest : List (Phase × Segment)) :
    bytesIn ((phase, segment) :: rest) = segment.length + bytesIn rest := by
  rw [bytesIn, List.map_cons, List.sum_cons, bytesIn]

theorem ensures_emit (phase : Phase) (w : SegmentWriter) (segments : List (Phase × Segment)) :
    (emit phase w segments : Run σ _).Ensures fun r =>
      w.GrewBy (bytesIn segments) segments.length r.2.1 := by
  induction segments generalizing phase w with
  | nil => exact fun t => ⟨Nat.le_refl _, Nat.le_refl _⟩
  | cons s rest ih =>
    obtain ⟨next, segment⟩ := s
    intro t
    rw [emit, value_enter, SegmentWriter.sendSegments_singleton, bytesIn_cons, List.length_cons,
      Nat.add_comm rest.length]
    dsimp only
    refine (SegmentWriter.ensures_sendSegment w segment).bind
      (Q := fun r : _ × SegmentWriter × Phase =>
        w.GrewBy (segment.length + bytesIn rest) (1 + rest.length) r.2.1) ?_ t
    rintro ⟨result, w'⟩ (hsent : w.GrewBy segment.length 1 w')
    cases result with
    | error e => exact fun t => hsent.mono (Nat.le_add_right _ _) (Nat.le_add_right _ _)
    | ok u => exact fun t => hsent.trans (ih next w' t)

omit [Transport σ] in
theorem enter_eq {α : Type} {phase next : Phase} {body? : Unit → CheckedRun σ α}
    {body : Unit → Run σ α} (h : body? () = ExceptT.lift (body ())) :
    (if phase ≠ next then ExceptT.lift (Run.report (.phaseChanged phase next)) >>= body?
      else body? ()) =
    ExceptT.lift (if phase ≠ next then Run.report (.phaseChanged phase next) >>= body
      else body ()) := by
  split
  · exact Run.lift_bind_eq_of_forall fun _ => h
  · exact h

theorem emit?_eq {phase : Phase} {w : SegmentWriter} {segments : List (Phase × Segment)}
    (hbytes : w.bytesWritten + bytesIn segments < UInt64.size)
    (hsegments : w.segmentsWritten + segments.length < UInt64.size) :
    (emit? phase w segments : CheckedRun σ _) = ExceptT.lift (emit phase w segments) := by
  induction segments generalizing phase w with
  | nil => rfl
  | cons s rest ih =>
    obtain ⟨next, segment⟩ := s
    rw [bytesIn_cons] at hbytes
    rw [List.length_cons] at hsegments
    have hsum : w.bytesWritten + ([segment].map Segment.length).sum < UInt64.size := by
      rw [List.map_singleton, List.sum_singleton]
      omega
    rw [emit?, emit, SegmentWriter.sendSegments?_eq hsum (by rw [List.length_singleton]; omega),
      SegmentWriter.sendSegments_singleton]
    refine enter_eq (Run.lift_bind_eq (SegmentWriter.ensures_sendSegment w segment) ?_)
    rintro ⟨result, w'⟩ (⟨hgrown, hnumber⟩ : w.GrewBy segment.length 1 w')
    cases result with
    | error e => rfl
    | ok u => exact ih (by omega) (by omega)

theorem bytesIn_segments_le (p : Plan) : bytesIn p.segments ≤ p.totalLength := by
  have hempty : ByteArray.empty.size = 0 := rfl
  simp only [bytesIn, Plan.segments, Plan.totalLength, List.map_cons, List.map_nil, List.sum_cons,
    List.sum_nil, Segment.length, Header.size_encode, hempty]
  omega

theorem send?_eq (h : p.totalLength < UInt64.size) (fileName : String) :
    (send? p fileName : CheckedRun σ _) = ExceptT.lift (send p fileName) := by
  have hbytes := bytesIn_segments_le p
  unfold send? send
  refine Run.lift_bind_eq_of_forall fun _ => ?_
  refine Run.lift_bind_eq_of_forall fun answer => ?_
  cases answer with
  | error e => rfl
  | ok handle =>
    have hemit : (emit? .openingTransport { handle } p.segments : CheckedRun σ _) =
        ExceptT.lift (emit .openingTransport { handle } p.segments) :=
      emit?_eq (by rw [Nat.zero_add]; omega) (show 0 + 7 < UInt64.size by decide)
    dsimp only
    rw [hemit]
    refine Run.lift_bind_eq_of_forall fun (result, w, phase) => ?_
    refine Run.lift_bind_eq_of_forall fun _ => ?_
    refine Run.lift_bind_eq_of_forall fun _ => ?_
    cases result with
    | error e => rfl
    | ok u => rfl

theorem Plans.totalLength_lt (h : d.Plans p) : p.totalLength < UInt64.size := by
  rw [h.totalLength_eq]
  exact h.fits.length_lt

theorem writeTo?_eq (d : Dump) (fileName : String) :
    (d.writeTo? fileName : CheckedRun σ _) = ExceptT.lift (d.writeTo fileName) := by
  rw [writeTo?, writeTo, plan?_eq, Run.ok_bind]
  have hvalue : (Run.ofLogged d.plan : Run σ _).Ensures (· = d.plan.value) := fun _ => rfl
  refine Run.lift_bind_eq hvalue ?_
  rintro (e | p) hplan
  · rfl
  · have hp := plan_eq_ok_iff.1 hplan.symm
    dsimp only
    rw [send?_eq hp.totalLength_lt]
    exact Run.lift_bind_eq_of_forall fun _ => rfl

theorem bytesIn_le {sent segments : List (Phase × Segment)} (h : sent <+: segments) :
    bytesIn sent ≤ bytesIn segments := by
  obtain ⟨rest, rfl⟩ := h
  rw [bytesIn, bytesIn, List.map_append, List.sum_append]
  exact Nat.le_add_right _ _

/-- Wherever the sending of a plan has come to, the transport was credited with no more than the
file. -/
theorem bytesWritten_emit_le {sent : List (Phase × Segment)} (h : sent <+: p.segments)
    (handle : Handle) (t : σ) :
    (emit .openingTransport { handle } sent t).value.2.1.bytesWritten ≤ p.totalLength := by
  obtain ⟨hgrown, -⟩ := ensures_emit .openingTransport { handle } sent t
  rw [Nat.zero_add] at hgrown
  exact (hgrown.trans (bytesIn_le h)).trans (bytesIn_segments_le p)

/-- A file that does not fit is refused as a layout, and for no other reason is a size too large. -/
theorem exists_plan_overflow_iff :
    (∃ m, d.plan.value = .error (.layout (.overflow m))) ↔
      ¬ d.Foreign ∧ Layout.ValidSize d.registry.recordSize ∧
        2 ^ 64 ≤ fileSize d.registry.recordSize.toNat d.registry.extents.data.length.toNat
          d.registry.extents.counters.length.toNat d.registry.extents.names.length.toNat := by
  rw [← Layout.exists_overflow_iff]
  constructor
  · rintro ⟨m, h⟩
    cases plan_eq_error_iff.1 h with
    | layout hnative hlayout => exact ⟨hnative, m, hlayout⟩
  · rintro ⟨hnative, m, hlayout⟩
    exact ⟨m, plan_eq_error_iff.2 (.layout hnative hlayout)⟩

/-- With fewer registrations than there are words, every sum and every product that registration,
planning and sending work out fits, and checking them changes nothing. What does not fit is the size
of a file, and planning refuses it. Of a planned file, the plan and its layout have the same length,
and no more of it than that is ever counted as written, whatever the transport says. -/
theorem dump_checked (recordSize : UInt64) (steps : List Registry.Step)
    (h : steps.countP Registry.Step.registers < UInt64.size) (image : MemoryImage) (width : Width)
    (phase : Phase) (fileName : String) :
    let new := Registry.ofRecordSize recordSize
    let r := new.replay steps
    let d : Dump := { registry := r, image, width, phase }
    new.replay? steps = .ok r ∧
    d.plan? = .ok d.plan ∧
    (d.writeTo? fileName : CheckedRun σ _) = ExceptT.lift (d.writeTo fileName) ∧
    ((∃ m, d.plan.value = .error (.layout (.overflow m))) ↔
      ¬ d.Foreign ∧ Layout.ValidSize recordSize ∧
        2 ^ 64 ≤ fileSize recordSize.toNat r.extents.data.length.toNat
          r.extents.counters.length.toNat r.extents.names.length.toNat) ∧
    ∀ p, d.plan.value = .ok p →
      p.totalLength? = .ok p.totalLength ∧
      (∃ n, p.layout.totalLength = .ok n ∧ n.toNat = p.totalLength) ∧
      ∀ sent, sent <+: p.segments → ∀ (handle : Handle) (t : σ),
        (emit .openingTransport { handle } sent t).value.2.1.bytesWritten ≤ p.totalLength := by
  intro new r d
  have hreplay : new.replay? steps = .ok r := Registry.replay?_eq ((Nat.zero_add _).trans_lt h)
  have hsize : recordSize = d.registry.recordSize := (Registry.recordSize_replay new steps).symm
  refine ⟨hreplay, plan?_eq d, writeTo?_eq d fileName, ?_, fun p hplan => ?_⟩
  · rw [hsize]
    exact exists_plan_overflow_iff
  · have hp := plan_eq_ok_iff.1 hplan
    refine ⟨Plan.totalLength?_eq hp.totalLength_lt, ⟨_, hp.fits.totalLength, ?_⟩,
      fun sent hsent handle t => bytesWritten_emit_le hsent handle t⟩
    rw [hp.totalLength_eq]
    exact UInt64.toNat_ofNat_of_lt' hp.fits.length_lt

/-- One record with one counter and five bytes of names. -/
def smallSteps : List Registry.Step :=
  [.registerData ⟨0x1000, 0x40, 1⟩, .registerNames 0x2000 5]

def smallDump : Dump :=
  { registry := (Registry.ofRecordSize 64).replay smallSteps, image := .live ⟨fun _ => 0⟩ }

/-- A transport that says it took a thousand bytes of the header is credited with 192 at most. -/
theorem dump_checked_overstated :
    smallSteps.countP Registry.Step.registers < UInt64.size ∧
    ∃ p, smallDump.plan.value = .ok p ∧ p.totalLength? = .ok 192 ∧
      (emit .openingTransport { handle := ⟨0⟩ } p.segments
        ({ returns := [1000] } : ScriptedTransport)).value.2.1.bytesWritten ≤ 192 := by
  have hcount : smallSteps.countP Registry.Step.registers < UInt64.size := by decide
  have hlength : smallDump.plan.value.toOption.map Plan.totalLength = some 192 := by
    decide +kernel
  obtain ⟨-, -, -, -, hplanned⟩ := dump_checked (σ := ScriptedTransport) 64 smallSteps hcount
    (.live ⟨fun _ => 0⟩) .native .idle "default.profraw"
  cases hplan : smallDump.plan.value with
  | error e =>
    rw [hplan] at hlength
    cases hlength
  | ok p =>
    rw [hplan] at hlength
    have htotal : p.totalLength = 192 := Option.some.inj hlength
    obtain ⟨hsum, -, hwritten⟩ := hplanned p hplan
    rw [htotal] at hsum hwritten
    exact ⟨hcount, p, rfl, hsum, hwritten p.segments (List.prefix_refl _) ⟨0⟩ _⟩

end Dump

end RawProfile
