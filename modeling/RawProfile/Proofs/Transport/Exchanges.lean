import RawProfile.Proofs.Transport.Trace
import RawProfile.Transport.Semihosting

/-!
# Exchanges with a debug host

Every call of a link is one exchange with its host, and a write is taken whole if the host replies
with zero. So strings that are written in a row come to the exchanges of `Host.writes`: one for each
string, up to and with the first whose reply is another word (`served_writes`).
-/

namespace RawProfile.Semihosting

namespace Host

def exchange (host : Host) (past : Array Exchange) (request : HostRequest) : Exchange :=
  ⟨request, host past request⟩

/-- The exchanges that writing strings comes to, up to and with the first reply that is not zero. -/
def writes (host : Host) (handle : UInt64) : Array Exchange → List ByteArray → List Exchange
  | _, [] => []
  | past, bytes :: rest =>
    let e := host.exchange past (.write handle bytes)
    e :: if e.reply = 0 then host.writes handle (past.push e) rest else []

variable {host host' : Host} {handle : UInt64} {past : Array Exchange} {bytes : ByteArray}
  {strings rest : List ByteArray} {e : Exchange}

theorem writes_cons_of_zero (h : (host.exchange past (.write handle bytes)).reply = 0) :
    host.writes handle past (bytes :: rest) = host.exchange past (.write handle bytes) ::
      host.writes handle (past.push (host.exchange past (.write handle bytes))) rest := by
  rw [writes, if_pos h]

theorem writes_cons_of_ne_zero (h : (host.exchange past (.write handle bytes)).reply ≠ 0) :
    host.writes handle past (bytes :: rest) = [host.exchange past (.write handle bytes)] := by
  rw [writes, if_neg h]

theorem request_of_mem_writes (h : e ∈ host.writes handle past strings) :
    ∃ bytes ∈ strings, e.request = .write handle bytes := by
  induction strings generalizing past with
  | nil => cases h
  | cons bytes rest ih =>
    rw [writes] at h
    rcases List.mem_cons.1 h with rfl | h
    · exact ⟨bytes, List.mem_cons_self, rfl⟩
    · split at h
      · obtain ⟨bytes', hbytes, hrequest⟩ := ih h
        exact ⟨bytes', List.mem_cons_of_mem _ hbytes, hrequest⟩
      · cases h

/-- The two hosts reply alike, except to closings. -/
def AlikeButClose (host host' : Host) : Prop :=
  ∀ past request, (∀ handle, request ≠ .close handle) → host' past request = host past request

theorem AlikeButClose.exchange_openFile (h : host.AlikeButClose host') (past : Array Exchange)
    (path : String) (mode : OpenMode) :
    host'.exchange past (.openFile path mode) = host.exchange past (.openFile path mode) :=
  congrArg (Exchange.mk _) (h past _ nofun)

theorem AlikeButClose.exchange_write (h : host.AlikeButClose host') (past : Array Exchange)
    (handle : UInt64) (bytes : ByteArray) :
    host'.exchange past (.write handle bytes) = host.exchange past (.write handle bytes) :=
  congrArg (Exchange.mk _) (h past _ nofun)

theorem AlikeButClose.writes (h : host.AlikeButClose host') (handle : UInt64)
    (past : Array Exchange) (strings : List ByteArray) :
    host'.writes handle past strings = host.writes handle past strings := by
  induction strings generalizing past with
  | nil => rfl
  | cons bytes rest ih => rw [Host.writes, Host.writes, h.exchange_write, ih]

end Host

/-! ## Paths -/

theorem ne_zero_of_mem_utf8EncodeChar {c : Char} (h : c ≠ '\x00') {b : UInt8}
    (hb : b ∈ String.utf8EncodeChar c) : b ≠ 0 := by
  have hval : c.val.toNat ≠ 0 := fun hzero => h (Char.ext (UInt32.toNat_inj.1 hzero))
  suffices b.toNat ≠ 0 from fun hzero => this (congrArg UInt8.toNat hzero)
  unfold String.utf8EncodeChar at hb
  dsimp only at hb
  split at hb
  · rw [List.mem_singleton.1 hb, UInt8.toNat_ofNat']
    omega
  · split at hb
    · simp only [List.mem_cons, List.not_mem_nil, or_false] at hb
      rcases hb with rfl | rfl <;> rw [UInt8.toNat_ofNat'] <;> omega
    · split at hb
      · simp only [List.mem_cons, List.not_mem_nil, or_false] at hb
        rcases hb with rfl | rfl | rfl <;> rw [UInt8.toNat_ofNat'] <;> omega
      · simp only [List.mem_cons, List.not_mem_nil, or_false] at hb
        rcases hb with rfl | rfl | rfl | rfl <;> rw [UInt8.toNat_ofNat'] <;> omega

/-- The zero byte after a path is the first one, so it is where the host sees the path end. -/
theorem zero_not_mem_toUTF8 {path : String} (h : '\x00' ∉ path.toList) :
    0 ∉ path.toUTF8.data.toList := by
  intro hzero
  rw [String.toUTF8_eq_toByteArray, ← String.utf8Encode_toList, List.utf8Encode,
    List.data_toByteArray] at hzero
  obtain ⟨c, hc, hb⟩ := List.mem_flatMap.1 hzero
  exact ne_zero_of_mem_utf8EncodeChar (fun heq => h (heq ▸ hc)) hb rfl

namespace Link

variable {l l' : Link} {path : String} {handle : UInt64}

def told (l : Link) (es : List Exchange) : Link :=
  { l with exchanges := l.exchanges ++ es.toArray }

theorem told_told (l : Link) (es es' : List Exchange) :
    (l.told es).told es' = l.told (es ++ es') := by
  have hexchanges : l.exchanges ++ es.toArray ++ es'.toArray =
      l.exchanges ++ (es ++ es').toArray := by
    rw [Array.append_assoc, List.append_toArray es es']
  exact congrArg (Link.mk l.host) hexchanges

theorem ask_eq (l : Link) (request : HostRequest) :
    l.ask request = ((l.host.exchange l.exchanges request).reply,
      l.told [l.host.exchange l.exchanges request]) := rfl

/-! ## Calls -/

theorem openFile_of_mem (h : '\x00' ∈ path.toList) :
    (l.openFile path).value = (.error ⟨path, "path contains a NUL byte"⟩, l) := by
  rw [openFile, if_pos h]
  rfl

theorem openFile_of_not_mem (h : '\x00' ∉ path.toList) :
    let opening := l.host.exchange l.exchanges (.openFile path .writePlusBinary)
    (l.openFile path).value =
      (if opening.reply = openFailed then .error ⟨path, "host returned -1"⟩
        else .ok ⟨opening.reply.toNat⟩, l.told [opening]) := by
  intro opening
  rw [openFile, if_neg h, ask_eq]
  dsimp only
  by_cases hreply : opening.reply = openFailed
  · rw [if_pos hreply, if_pos hreply]
  · rw [if_neg hreply, if_neg hreply]

theorem serves_write {s : Sent} (h : (s.call ⟨handle.toNat⟩).Serves l l') :
    let e := l.host.exchange l.exchanges (.write handle s.bytes)
    s.taken = s.bytes.size - e.reply.toNat ∧ l' = l.told [e] := by
  intro e
  change l.write ⟨handle.toNat⟩ s.bytes = (s.taken, l') at h
  rw [write, UInt64.ofNat_toNat, ask_eq] at h
  obtain ⟨htaken, hlink⟩ := Prod.mk.inj h
  exact ⟨htaken.symm, hlink.symm⟩

theorem serves_close (h : (Call.close ⟨handle.toNat⟩).Serves l l') :
    l' = l.told [l.host.exchange l.exchanges (.close handle)] := by
  change l.close ⟨handle.toNat⟩ = l' at h
  rw [← h, close, UInt64.ofNat_toNat, ask_eq]

/-- A string that is not empty is taken whole if and only if the reply is zero. -/
theorem whole_iff {s : Sent} {reply : UInt64} (htaken : s.taken = s.bytes.size - reply.toNat)
    (hsize : s.bytes.size ≠ 0) : s.Whole ↔ reply = 0 := by
  rw [Sent.Whole, htaken, ← UInt64.toNat_inj, UInt64.toNat_zero]
  omega

/-- Strings that are taken whole get replies of zero, and what is written after them goes on from
there. -/
theorem served_writes {sent : List Sent} (h : Served l (sent.map (·.call ⟨handle.toNat⟩)) l')
    (hsent : ∀ s ∈ sent, s.bytes.size ≠ 0 ∧ s.Whole) :
    ∃ es, l' = l.told es ∧ es.length = sent.length ∧ (∀ e ∈ es, e.reply = 0) ∧
      ∀ rest, l.host.writes handle l.exchanges (sent.map Sent.bytes ++ rest) =
        es ++ l'.host.writes handle l'.exchanges rest := by
  induction sent generalizing l with
  | nil =>
    cases h
    refine ⟨[], ?_, rfl, fun e he => absurd he List.not_mem_nil, fun rest => rfl⟩
    exact congrArg (Link.mk _) Array.append_empty.symm
  | cons s sent ih =>
    obtain ⟨next, hfirst, hrest⟩ := h
    obtain ⟨⟨hsize, hwhole⟩, hlater⟩ := List.forall_mem_cons.1 hsent
    obtain ⟨htaken, rfl⟩ := serves_write hfirst
    obtain ⟨es, hlink, hlength, hreplies, hwrites⟩ := ih hrest hlater
    have hreply := (whole_iff htaken hsize).1 hwhole
    refine ⟨_ :: es, hlink.trans (told_told l _ es), congrArg Nat.succ hlength,
      List.forall_mem_cons.2 ⟨hreply, hreplies⟩, fun rest => ?_⟩
    rw [List.map_cons, List.cons_append, Host.writes_cons_of_zero hreply]
    exact congrArg _ (hwrites rest)

/-- A string that is taken in part gets another reply, and nothing is written after it. -/
theorem served_writes_concat {sent : List Sent} {last : Sent}
    (h : Served l (sent.map (·.call ⟨handle.toNat⟩) ++ [last.call ⟨handle.toNat⟩]) l')
    (hsent : ∀ s ∈ sent, s.bytes.size ≠ 0 ∧ s.Whole) (hsize : last.bytes.size ≠ 0)
    (hshort : ¬ last.Whole) :
    ∃ es e, l' = l.told (es ++ [e]) ∧ es.length = sent.length ∧ (∀ e ∈ es, e.reply = 0) ∧
      e.reply ≠ 0 ∧ last.taken = last.bytes.size - e.reply.toNat ∧
      ∀ rest, l.host.writes handle l.exchanges (sent.map Sent.bytes ++ last.bytes :: rest) =
        es ++ [e] := by
  obtain ⟨next, hserved, _, hserves, rfl⟩ := Served.append_iff.1 h
  obtain ⟨es, rfl, hlength, hreplies, hwrites⟩ := served_writes hserved hsent
  obtain ⟨htaken, rfl⟩ := serves_write hserves
  have hreply := mt (whole_iff htaken hsize).2 hshort
  refine ⟨es, _, told_told l es _, hlength, hreplies, hreply, htaken, fun rest => ?_⟩
  rw [hwrites, Host.writes_cons_of_ne_zero hreply]

end Link

end RawProfile.Semihosting
