import RawProfile.Proofs.Dump.Stored
import RawProfile.Proofs.Transport.Exchanges

/-!
# Dumps to a debug host

What passes between a dump and a debug host that may reply with any words. A host that refuses to
open the file is asked nothing else. Any other one gets the writes of the plan, up to and with the
first that it does not reply to with zero, and the closing. `Judged` is what the replies to the
writes make of the dump; the reply to the closing makes nothing of it (`writeTo_link`).
-/

namespace RawProfile.Dump

open Semihosting

variable {d : Dump} {p : Plan} {fileName : String} {host : Host} {past : Array Exchange}

/-- What the replies to the writes make of a dump: it is complete if all of them are zero, and else
the first that is not says how many bytes are missing, or more than there are. -/
inductive Judged (p : Plan) : List Exchange → Except DumpError Summary → Prop where
  | complete {writes : List Exchange} : (∀ e ∈ writes, e.reply = 0) →
      Judged p writes (.ok ⟨p.header, chunksLength p.writes⟩)
  | cutShort {before after : List (Nat × ByteArray)} {segment : Nat} {bytes : ByteArray}
      {earlier : List Exchange} {last : Exchange} :
      p.writes = before ++ (segment, bytes) :: after → earlier.length = before.length →
      (∀ e ∈ earlier, e.reply = 0) → last.reply ≠ 0 →
      Judged p (earlier ++ [last]) (.error (.shortWrite
        { segment, requested := bytes.size
          transferred := bytes.size - min bytes.size last.reply.toNat }))

namespace Judged

variable {writes : List Exchange} {result result' : Except DumpError Summary}

theorem ok_iff (h : Judged p writes result) :
    (∃ summary, result = .ok summary) ↔ ∀ e ∈ writes, e.reply = 0 := by
  cases h with
  | complete hzero => exact iff_of_true ⟨_, rfl⟩ hzero
  | cutShort _ _ _ hlast =>
    refine iff_of_false nofun fun hzero => hlast (hzero _ ?_)
    exact List.mem_append_right _ List.mem_cons_self

theorem unique (h : Judged p writes result) (h' : Judged p writes result') : result = result' := by
  cases h with
  | complete hzero =>
    obtain ⟨summary, hok⟩ := h'.ok_iff.2 hzero
    cases h' with
    | complete _ => rfl
    | cutShort _ _ _ _ => cases hok
  | @cutShort before after segment bytes earlier last hwrites hlength hearlier hlast =>
    generalize hall : earlier ++ [last] = all at h'
    cases h' with
    | complete hzero =>
      subst hall
      exact absurd (hzero last (List.mem_append_right _ List.mem_cons_self)) hlast
    | @cutShort before' after' segment' bytes' earlier' last' hwrites' hlength' =>
      obtain ⟨rfl, hlast'⟩ := List.append_inj' hall rfl
      cases hlast'
      obtain ⟨-, hchunk⟩ := List.append_inj (hwrites.symm.trans hwrites')
        (hlength.symm.trans hlength')
      cases hchunk
      rfl

end Judged

/-! ## Sizes -/

theorem size_le_chunksLength {chunks : List (Nat × ByteArray)} {chunk : Nat × ByteArray}
    (h : chunk ∈ chunks) : chunk.2.size ≤ chunksLength chunks := by
  induction chunks with
  | nil => cases h
  | cons c chunks ih =>
    rw [chunksLength]
    rcases List.mem_cons.1 h with rfl | h
    · exact Nat.le_add_right _ _
    · exact Nat.le_add_left_of_le (ih h)

theorem Plans.size_of_mem_writes (hp : d.Plans p) {chunk : Nat × ByteArray} (h : chunk ∈ p.writes) :
    chunk.2.size ≠ 0 ∧ chunk.2.size < UInt64.size := by
  refine ⟨Plan.size_of_mem_writes h, ?_⟩
  calc chunk.2.size ≤ chunksLength p.writes := size_le_chunksLength h
    _ = p.layout.length := hp.chunksLength_writes
    _ < UInt64.size := hp.fits.length_lt

/-! ## The exchanges of a dump -/

section

variable (hplan : d.plan.value = .ok p)

include hplan

theorem writeTo_unopened {σ : Type} [Transport σ] {t opened : σ} {e : OpenError}
    (hopen : (Transport.openFile t fileName).value = (.error e, opened)) :
    (d.writeTo fileName t).value.1 = .error (.cannotOpen e) ∧
      (d.writeTo fileName t).transport = opened := by
  obtain ⟨hvalue, hcalls⟩ := writeTo_planned hplan fileName t
  obtain ⟨hsend, hsendCalls⟩ := send_unopened (p := p) (congrArg Prod.fst hopen)
  have hserved := served_writeTo d fileName t
  rw [hcalls, hsendCalls] at hserved
  obtain ⟨next, hserves, htransport⟩ := hserved
  exact ⟨(congrArg Prod.fst hvalue).trans hsend,
    htransport.trans (congrArg Prod.snd (hserves.symm.trans hopen))⟩

variable (host past)

theorem writeTo_of_nul (hname : '\x00' ∈ fileName.toList) :
    (d.writeTo fileName (⟨host, past⟩ : Link)).value.1 =
        .error (.cannotOpen ⟨fileName, "path contains a NUL byte"⟩) ∧
      (d.writeTo fileName (⟨host, past⟩ : Link)).transport = ⟨host, past⟩ :=
  writeTo_unopened hplan (Link.openFile_of_mem hname)

theorem writeTo_of_refused (hname : '\x00' ∉ fileName.toList) :
    let opening := host.exchange past (.openFile fileName .writePlusBinary)
    opening.reply = openFailed →
      (d.writeTo fileName (⟨host, past⟩ : Link)).value.1 =
        .error (.cannotOpen ⟨fileName, "host returned -1"⟩) ∧
      (d.writeTo fileName (⟨host, past⟩ : Link)).transport = ⟨host, past.push opening⟩ := by
  intro opening hreply
  refine writeTo_unopened hplan ((Link.openFile_of_not_mem hname).trans ?_)
  rw [if_pos hreply]
  rfl

/-- A file that the host opens is written, as far as the host takes it, and closed. -/
theorem judged_writeTo (hname : '\x00' ∉ fileName.toList) :
    let opening := host.exchange past (.openFile fileName .writePlusBinary)
    let writes := host.writes opening.reply (past.push opening) (p.writes.map (·.2))
    let closing := host.exchange (past.push opening ++ writes.toArray) (.close opening.reply)
    opening.reply ≠ openFailed →
      Judged p writes (d.writeTo fileName (⟨host, past⟩ : Link)).value.1 ∧
      (d.writeTo fileName (⟨host, past⟩ : Link)).transport =
        Link.mk host ((past.push opening ++ writes.toArray).push closing) := by
  intro opening writes closing hreply
  have hopen : (Call.openFile fileName (.ok ⟨opening.reply.toNat⟩)).Serves (⟨host, past⟩ : Link)
      ⟨host, past.push opening⟩ :=
    (Link.openFile_of_not_mem hname).trans (by rw [if_neg hreply]; rfl)
  obtain ⟨calls, result, credit, hsent, hcalls, hvalue⟩ :=
    send_opened (p := p) (congrArg Prod.fst hopen)
  obtain ⟨hvalue', hcalls'⟩ := writeTo_planned hplan fileName (⟨host, past⟩ : Link)
  have hserved := served_writeTo d fileName (⟨host, past⟩ : Link)
  rw [hcalls', hcalls] at hserved
  obtain ⟨written, hwritten, hclose⟩ := served_file hserved hopen
  rw [(plan_eq_ok_iff.1 hplan).chunks_eq] at hsent
  rw [hvalue', hvalue]
  cases hsent with
  | whole sent hchunks hwhole =>
    have hsizes : ∀ s ∈ sent, s.bytes.size ≠ 0 ∧ s.Whole := fun s hs =>
      ⟨Plan.size_of_mem_writes (hchunks ▸ List.mem_map_of_mem hs), hwhole s hs⟩
    obtain ⟨es, rfl, -, hzero, hwrites⟩ := Link.served_writes hwritten hsizes
    have hstrings : p.writes.map (·.2) = sent.map Sent.bytes ++ [] := by
      rw [← hchunks, List.map_map, List.append_nil]
      rfl
    have heq : writes = es :=
      (congrArg (host.writes _ _) hstrings).trans ((hwrites []).trans (List.append_nil es))
    rw [Link.serves_close hclose, ← heq]
    exact ⟨.complete (heq ▸ hzero), rfl⟩
  | short sent last rest hchunks hwhole hshort =>
    have hsizes : ∀ s ∈ sent, s.bytes.size ≠ 0 ∧ s.Whole := fun s hs =>
      ⟨Plan.size_of_mem_writes (hchunks ▸ List.mem_append_left _ (List.mem_map_of_mem hs)),
        hwhole s hs⟩
    have hsize : last.bytes.size ≠ 0 :=
      Plan.size_of_mem_writes (hchunks ▸ List.mem_append_right _ List.mem_cons_self)
    obtain ⟨es, e, rfl, hlength, hzero, hlast, htaken, hwrites⟩ :=
      Link.served_writes_concat hwritten hsizes hsize hshort
    have hstrings : p.writes.map (·.2) = sent.map Sent.bytes ++ last.bytes :: rest.map (·.2) := by
      rw [← hchunks, List.map_append, List.map_map]
      rfl
    have heq : writes = es ++ [e] := (congrArg (host.writes _ _) hstrings).trans (hwrites _)
    have htransferred : last.taken = last.bytes.size - min last.bytes.size e.reply.toNat := by
      omega
    rw [Link.serves_close hclose, ← heq]
    refine ⟨?_, rfl⟩
    rw [heq]
    change Judged p _ (.error (.shortWrite ⟨last.segment, last.bytes.size, last.taken⟩))
    rw [htransferred]
    exact .cutShort hchunks.symm (hlength.trans (List.length_map _).symm) hzero hlast

theorem writeTo_link_ok_iff (fileName : String) :
    let opening := host.exchange past (.openFile fileName .writePlusBinary)
    let writes := host.writes opening.reply (past.push opening) (p.writes.map (·.2))
    (∃ summary, (d.writeTo fileName (⟨host, past⟩ : Link)).value.1 = .ok summary) ↔
      '\x00' ∉ fileName.toList ∧ opening.reply ≠ openFailed ∧ ∀ e ∈ writes, e.reply = 0 := by
  intro opening writes
  by_cases hname : '\x00' ∈ fileName.toList
  · rw [(writeTo_of_nul host past hplan hname).1]
    exact iff_of_false nofun fun h => h.1 hname
  by_cases hreply : opening.reply = openFailed
  · rw [(writeTo_of_refused host past hplan hname hreply).1]
    exact iff_of_false nofun fun h => h.2.1 hreply
  have hjudged := (judged_writeTo host past hplan hname hreply).1
  exact hjudged.ok_iff.trans ⟨fun h => ⟨hname, hreply, h⟩, fun h => h.2.2⟩

/-- Replies to closings make no difference to the answer, nor to what is asked. -/
theorem writeTo_link_congr {host' : Host} (h : host.AlikeButClose host') (fileName : String) :
    let o := d.writeTo fileName (⟨host, past⟩ : Link)
    let o' := d.writeTo fileName (⟨host', past⟩ : Link)
    o'.value.1 = o.value.1 ∧
      o'.transport.exchanges.map Exchange.request = o.transport.exchanges.map Exchange.request := by
  intro o o'
  have hopening := h.exchange_openFile past fileName .writePlusBinary
  by_cases hname : '\x00' ∈ fileName.toList
  · obtain ⟨hvalue, hlink⟩ := writeTo_of_nul host past hplan hname
    obtain ⟨hvalue', hlink'⟩ := writeTo_of_nul host' past hplan hname
    rw [show o.transport = _ from hlink, show o'.transport = _ from hlink']
    exact ⟨hvalue'.trans hvalue.symm, rfl⟩
  by_cases hreply : (host.exchange past (.openFile fileName .writePlusBinary)).reply = openFailed
  · obtain ⟨hvalue, hlink⟩ := writeTo_of_refused host past hplan hname hreply
    obtain ⟨hvalue', hlink'⟩ := writeTo_of_refused host' past hplan hname (hopening ▸ hreply)
    rw [show o.transport = _ from hlink, show o'.transport = _ from hlink', hopening]
    exact ⟨hvalue'.trans hvalue.symm, rfl⟩
  · obtain ⟨hjudged, hlink⟩ := judged_writeTo host past hplan hname hreply
    obtain ⟨hjudged', hlink'⟩ := judged_writeTo host' past hplan hname (hopening ▸ hreply)
    rw [hopening, h.writes] at hjudged' hlink'
    rw [show o.transport = _ from hlink, show o'.transport = _ from hlink']
    refine ⟨hjudged'.unique hjudged, ?_⟩
    rw [Array.map_push, Array.map_push]
    rfl

end

/-- A dump to a debug host, for every host, whatever has passed between them before. What is asked
of the host, and what its replies make of the dump, is settled by its reply to the opening and by
its replies to the writes. -/
theorem writeTo_link (hplan : d.plan.value = .ok p) (fileName : String) (host : Host)
    (past : Array Exchange) :
    let o := d.writeTo fileName (⟨host, past⟩ : Link)
    let opening := host.exchange past (.openFile fileName .writePlusBinary)
    let writes := host.writes opening.reply (past.push opening) (p.writes.map (·.2))
    let closing := host.exchange (past.push opening ++ writes.toArray) (.close opening.reply)
    ('\x00' ∈ fileName.toList →
      o.value.1 = .error (.cannotOpen ⟨fileName, "path contains a NUL byte"⟩) ∧
      o.transport = ⟨host, past⟩) ∧
    ('\x00' ∉ fileName.toList → opening.reply = openFailed →
      o.value.1 = .error (.cannotOpen ⟨fileName, "host returned -1"⟩) ∧
      o.transport = ⟨host, past.push opening⟩) ∧
    ('\x00' ∉ fileName.toList → opening.reply ≠ openFailed →
      Judged p writes o.value.1 ∧
      o.transport = ⟨host, (past.push opening ++ writes.toArray).push closing⟩) ∧
    ((∃ summary, o.value.1 = .ok summary) ↔
      '\x00' ∉ fileName.toList ∧ opening.reply ≠ openFailed ∧ ∀ e ∈ writes, e.reply = 0) ∧
    (opening.request.arguments = [.buffer, .word 7, .word (.ofNat fileName.utf8ByteSize)] ∧
      opening.request.buffer = some (fileName.toUTF8.push 0) ∧
      ('\x00' ∉ fileName.toList → 0 ∉ fileName.toUTF8.data.toList)) ∧
    (∀ e ∈ writes, ∃ bytes, bytes.size ≠ 0 ∧ bytes.size < UInt64.size ∧
      e.request.arguments = [.word opening.reply, .buffer, .word (.ofNat bytes.size)] ∧
      e.request.buffer = some bytes) ∧
    closing.request.arguments = [.word opening.reply, .word 0, .word 0] ∧
    ∀ host', host.AlikeButClose host' →
      let o' := d.writeTo fileName (⟨host', past⟩ : Link)
      o'.value.1 = o.value.1 ∧
      o'.transport.exchanges.map Exchange.request = o.transport.exchanges.map Exchange.request := by
  intro o opening writes closing
  refine ⟨writeTo_of_nul host past hplan, writeTo_of_refused host past hplan,
    judged_writeTo host past hplan, writeTo_link_ok_iff host past hplan fileName,
    ⟨rfl, rfl, zero_not_mem_toUTF8⟩, fun e he => ?_, rfl,
    fun host' halike => writeTo_link_congr host past hplan halike fileName⟩
  obtain ⟨bytes, hbytes, hrequest⟩ := Host.request_of_mem_writes he
  obtain ⟨chunk, hchunk, rfl⟩ := List.mem_map.1 hbytes
  obtain ⟨hsize, hlt⟩ := (plan_eq_ok_iff.1 hplan).size_of_mem_writes hchunk
  rw [hrequest]
  exact ⟨chunk.2, hsize, hlt, rfl, rfl⟩

/-- A host that takes the header but claims to miss more bytes than there are of the record, and
that replies to closings as it likes. -/
theorem writeTo_link_small :
    let host := Host.scripted [7, 0, openFailed]
    let other : Host := fun past request =>
      if request.operation = 2 then 5 else host past request
    (∃ p, small.plan.value = .ok p) ∧
      (small.writeTo "small" (⟨other, #[]⟩ : Link)).value.1 =
        .error (.shortWrite { segment := 1, requested := 16, transferred := 0 }) ∧
      (small.writeTo "small" (⟨other, #[]⟩ : Link)).transport.exchanges.map
          (·.request.operation) = #[1, 5, 5, 2] := by
  intro host other
  have hplanned : small.plan.value.isOk := by decide +kernel
  have hvalue : (small.writeTo "small" (⟨host, #[]⟩ : Link)).value.1 =
      .error (.shortWrite { segment := 1, requested := 16, transferred := 0 }) := by
    decide +kernel
  have halike : host.AlikeButClose other := by
    intro past request hrequest
    cases request with
    | openFile path mode => rfl
    | write handle bytes => rfl
    | close handle => exact absurd rfl (hrequest handle)
  cases hplan : small.plan.value with
  | error e =>
    rw [hplan] at hplanned
    cases hplanned
  | ok p =>
    obtain ⟨-, -, -, -, -, -, -, hclose⟩ := writeTo_link hplan "small" host #[]
    exact ⟨⟨p, rfl⟩, (hclose other halike).1.trans hvalue, by decide +kernel⟩

end RawProfile.Dump
