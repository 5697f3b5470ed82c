/-
# What a method returns comes back whole

`Delivers` is what the comment in `AcpiSendIoctlSynchronously` says of the ACPI driver: a result
that fits is copied, and otherwise the answer is `STATUS_BUFFER_OVERFLOW` with the length that it
needs.

With such a driver `AcpiEvaluateMethod` has the result of a method after two requests at most,
however long it is, unless the result grows in between (`acpiEvaluateMethod_result`), and
`AcpiQueryDsm` has the mask that the firmware puts into the first argument of its result
(`acpiQueryDsm_mask`).

One round of the loop has four ends (`evaluateLoop_round`): an allocation fails, there is no such
method, the result came, or the length that it needs.  Only the last one goes on, with a buffer of
that length.  So the second round ends with the result if it is no longer than the first one was,
and with `STATUS_BUFFER_OVERFLOW` if it is; these are the cases of `EvaluatesTo`, which keeps the
requests beside the status, as there must not be a third one.

The failures of an allocation are those of the call itself and not of some other one: `Fails`
speaks of the allocations between the state before the call and the state behind it.

The mask is read from a block that has room for an argument, whatever the result is
(`dsmMask_inBounds`).  A result that is no buffer of one, two or four bytes is refused before its
data are looked at, and with one of these it is the number that the bytes are (`dsmMask_result`).
-/
import WoaRk3576.Acpi.Evaluation

namespace WoaRk3576.Acpi

open WoaRk3576.Lib

/-! ## 1. Results, and the driver that copies them

A driver that keeps to its documentation, with the methods as a function from the number of the
request and its input to a result.  The number is there because a method may answer differently
when it is evaluated again.  An allocation that fails is looked for among those of the call, by
their numbers. -/

/-- **The bytes of a result**: the header of `ACPI_EVAL_OUTPUT_BUFFER`, with an argument at least.
-/
structure IsResult (r : List (BitVec 8)) : Prop where
  size : sizeofEvalOutputBuffer ≤ r.length
  fits : r.length < 256 ^ 4
  signature : leNat (r.take 4) = evalOutputBufferSignature
  count : leNat ((r.drop 8).take 4) ≠ 0

/-- **The ACPI driver**: `method n input` is what the method returns for request `n`, if there is
such a method. -/
structure Delivers (env : AcpiEnv) (method : Nat → List (BitVec 8) → Option (List (BitVec 8))) :
    Prop where
  isResult : ∀ n input r, method n input = some r → IsResult r
  missing : ∀ n request, method n request.input = none →
    copiesOutput (env.reply n request).status = false
  whole : ∀ n request r, method n request.input = some r → r.length ≤ request.outputBufferLength →
    (env.reply n request).status = statusSuccess
      ∧ (env.reply n request).information = r.length
      ∧ load (env.reply n request).systemBuffer 0 r.length = r
  overflow : ∀ n request r, method n request.input = some r →
    sizeofEvalOutputBuffer ≤ request.outputBufferLength → request.outputBufferLength < r.length →
    (env.reply n request).status = statusBufferOverflow
      ∧ 8 ≤ (env.reply n request).information
      ∧ (env.reply n request).information ≤ request.outputBufferLength
      ∧ loadLe (env.reply n request).systemBuffer 4 4 = r.length

/-- There is such a driver. -/
theorem delivers_acpiDriver {method : Nat → List (BitVec 8) → Option (List (BitVec 8))}
    (h : ∀ n input r, method n input = some r → IsResult r) :
    Delivers (acpiDriver method) method where
  isResult := h
  missing := by
    intro n request hnone
    unfold acpiDriver
    dsimp only
    rw [hnone]
    exact (by decide : copiesOutput statusObjectNameNotFound = false)
  whole := by
    intro n request r hsome hfits
    unfold acpiDriver
    dsimp only
    rw [hsome]
    dsimp only
    rw [dif_pos ⟨hfits, (h n request.input r hsome).fits⟩]
    exact ⟨rfl, rfl, load_store_self _ 0 _⟩
  overflow := by
    intro n request r hsome hsize hlong
    have hheader : 20 ≤ request.outputBufferLength := hsize
    unfold acpiDriver
    dsimp only
    rw [hsome]
    dsimp only
    rw [dif_neg fun hfits => Nat.not_le.mpr hlong hfits.1]
    refine ⟨rfl, Nat.le_refl 8, by dsimp only; omega, ?_⟩
    exact (loadLe_storeLe_self _ 4 4 _).trans (Nat.mod_eq_of_lt (h n request.input r hsome).fits)

/-- An allocation fails. -/
def AcpiEnv.Exhausted (env : AcpiEnv) : Prop := ∃ n, env.allocates n = false

/-- One of the allocations between the two states fails. -/
def AcpiEnv.Fails (env : AcpiEnv) (k k' : AcpiKernel) : Prop :=
  ∃ n, k.allocations ≤ n ∧ n < k'.allocations ∧ env.allocates n = false

theorem AcpiEnv.Fails.exhausted {env : AcpiEnv} {k k' : AcpiKernel} (h : env.Fails k k') :
    env.Exhausted := by
  obtain ⟨n, -, -, hfails⟩ := h
  exact ⟨n, hfails⟩

/-- A failure in a part of a call is one of the call. -/
theorem AcpiEnv.Fails.mono {env : AcpiEnv} {k k' l l' : AcpiKernel} (h : env.Fails l l')
    (hfirst : k.allocations ≤ l.allocations) (hlast : l'.allocations ≤ k'.allocations) :
    env.Fails k k' := by
  obtain ⟨n, hge, hlt, hfails⟩ := h
  exact ⟨n, hfirst.trans hge, hlt.trans_le hlast, hfails⟩

/-- The caller has a buffer with these bytes. -/
def Evaluated.Whole (e : Evaluated) (r : List (BitVec 8)) : Prop :=
  e.status = statusSuccess
    ∧ ∃ b, e.buffer = some b ∧ sizeofEvalOutputBuffer ≤ b.size ∧ r.length ≤ b.size
      ∧ load b.bytes 0 r.length = r

/-! ## 2. One request

One request ends in one of four ways: an allocation has failed before it is sent, there is no such
method, the result is there, or the length that it needs.  The copy never touches more than the
block has, since the driver does not return more than it was given room for. -/

/-- The front of a buffer is what is copied to it. -/
theorem load_copyFront {src dst : Memory} {n i k : Nat} (h : i + k ≤ n) :
    load (copyFront src n dst) i k = load src i k := by
  refine load_congr fun j hge hlt => ?_
  have hj : j < (load src 0 n).length := by
    rw [length_load]
    omega
  have hstore := store_of_lt dst 0 hj
  rw [getElem_load, Nat.zero_add] at hstore
  exact hstore

theorem validOutput_of_load {output : Memory} {r : List (BitVec 8)} (hr : IsResult r)
    (h : load output 0 r.length = r) : validOutput output = true := by
  have hsize := hr.size
  rw [sizeofEvalOutputBuffer] at hsize
  have hsignature : load output 0 4 = r.take 4 := by
    have hwindow := load_window output 0 (show 0 + 4 ≤ r.length by omega)
    rwa [h, List.drop_zero] at hwindow
  have hcount : load output 8 4 = (r.drop 8).take 4 := by
    have hwindow := load_window output 0 (show 8 + 4 ≤ r.length by omega)
    rwa [h] at hwindow
  simp only [validOutput, outputSignature, outputCount, loadLe, hsignature, hcount, hr.signature,
    beq_self_eq_true, Bool.true_and, bne_iff_ne, ne_eq]
  exact hr.count

/-- **What a request comes back with**, for a result and a buffer of `size` bytes. -/
def SendResult.Answers (sent : SendResult) (size : Nat) : Option (List (BitVec 8)) → Prop
  | none => copiesOutput sent.status = false
  | some r =>
    (r.length ≤ size ∧ sent.status = statusSuccess ∧ load sent.output 0 r.length = r
        ∧ sent.bytesReturned = some r.length)
      ∨ (size < r.length ∧ sent.status = statusBufferOverflow
        ∧ outputLength sent.output = r.length)

/-- A status that is not copied for is an error. -/
theorem fails_of_missing {status : NTSTATUS} (h : copiesOutput status = false) :
    ntSuccess status = false ∧ status ≠ statusBufferOverflow := by
  unfold copiesOutput at h
  rw [Bool.or_eq_false_iff, Bool.or_eq_false_iff, beq_eq_false_iff_ne] at h
  exact h.1

/-- The bytes from the front of a buffer. -/
theorem allInBounds_touch {k : AcpiKernel} {offset n size : Nat}
    (hk : AllInBounds k.accesses) (h : offset + n ≤ size) :
    AllInBounds (k.touch offset n size).accesses := by
  refine allInBounds_append.mpr ⟨hk, allInBounds_cons.mpr ⟨inBounds_one.mpr ?_, allInBounds_nil⟩⟩
  exact Extent.bytes_subset_iff.mpr (Or.inr ⟨Nat.zero_le _, by simpa using h⟩)

@[simp]
theorem allInBounds_free {k : AcpiKernel} {b : KernelBlock} :
    AllInBounds (k.free b).accesses ↔ AllInBounds k.accesses := Iff.rfl

@[simp]
theorem allInBounds_send {k : AcpiKernel} {request : IoctlRequest} :
    AllInBounds (k.send request).accesses ↔ AllInBounds k.accesses := Iff.rfl

section Request

variable {env : AcpiEnv} {method : Nat → List (BitVec 8) → Option (List (BitVec 8))}
  {k k' : AcpiKernel} {size : Nat}

/-- An allocation touches nothing and sends nothing, and it is one. -/
theorem allocate_keeps {block : Nat → KernelBlock} {o : Option Nat}
    (h : k.allocate env block = (o, k')) : k'.accesses = k.accesses ∧ k'.requests = k.requests
      ∧ k'.allocations = k.allocations + 1 := by
  unfold AcpiKernel.allocate at h
  split at h
  · cases h
    exact ⟨rfl, rfl, rfl⟩
  · cases h
    exact ⟨rfl, rfl, rfl⟩

theorem fails_of_allocate {block : Nat → KernelBlock}
    (h : k.allocate env block = (none, k')) : env.Fails k k' := by
  have hcount := (allocate_keeps h).2.2
  unfold AcpiKernel.allocate at h
  split at h
  · cases h
  · rename_i hfails
    exact ⟨k.allocations, le_rfl, by omega, Bool.eq_false_iff.mpr hfails⟩

theorem receiveOutput_keeps (reply : IoctlReply) (inputSize : Nat) (output : Memory) :
    (receiveOutput reply inputSize size output k).2.requests = k.requests
      ∧ (receiveOutput reply inputSize size output k).2.allocations = k.allocations := by
  unfold receiveOutput
  split
  · dsimp only
    split
    · split
      · exact ⟨rfl, rfl⟩
      · exact ⟨rfl, rfl⟩
    · exact ⟨rfl, rfl⟩
  · exact ⟨rfl, rfl⟩

/-- **The answer of the driver is what is received**, and it is read and copied in bounds. -/
theorem receiveOutput_answers (input : List (BitVec 8)) (n : Nat) (hdriver : Delivers env method)
    (hsize : sizeofEvalOutputBuffer ≤ size) (hk : AllInBounds k.accesses) :
    (receiveOutput (env.reply n ⟨input, size⟩) input.length size (fun _ => 0) k).1.Answers size
        (method n input)
      ∧ AllInBounds
        (receiveOutput (env.reply n ⟨input, size⟩) input.length size (fun _ => 0) k).2.accesses := by
  have hheader : 20 ≤ size := hsize
  unfold receiveOutput
  cases hresult : method n input with
  | none =>
    have hmissing := hdriver.missing n ⟨input, size⟩ hresult
    rw [if_neg (by rw [hmissing]; decide)]
    exact ⟨hmissing, hk⟩
  | some r =>
    by_cases hfits : r.length ≤ size
    · obtain ⟨hstatus, hinformation, hload⟩ := hdriver.whole n ⟨input, size⟩ r hresult hfits
      have hcopied : load (copyFront (env.reply n ⟨input, size⟩).systemBuffer r.length
          (fun _ => 0)) 0 r.length = r := by
        rw [load_copyFront (by omega), hload]
      rw [if_pos (by rw [hstatus]; rfl)]
      dsimp only
      have hcut : r.length % 2 ^ 32 = r.length :=
        Nat.mod_eq_of_lt (hdriver.isResult n input r hresult).fits
      rw [if_pos (by rw [hstatus]; rfl), hinformation,
        if_pos (validOutput_of_load (hdriver.isResult n input r hresult) hcopied), hcut]
      refine ⟨Or.inl ⟨hfits, hstatus, hcopied, rfl⟩, ?_⟩
      refine allInBounds_touch (allInBounds_touch (allInBounds_touch (allInBounds_touch hk ?_) ?_)
        ?_) ?_ <;> omega
    · obtain ⟨hstatus, hlow, hhigh, hlength⟩ :=
        hdriver.overflow n ⟨input, size⟩ r hresult hsize (Nat.lt_of_not_le hfits)
      dsimp only at hhigh
      rw [if_pos (by rw [hstatus]; rfl)]
      dsimp only
      rw [if_neg (by rw [hstatus]; decide)]
      refine ⟨Or.inr ⟨Nat.lt_of_not_le hfits, hstatus, ?_⟩, ?_⟩
      · rw [outputLength, loadLe, load_copyFront (by omega)]
        exact hlength
      · exact allInBounds_touch (allInBounds_touch hk (by omega)) (by omega)

/-- **One request**: an allocation fails before it is sent, or the answer comes back. -/
theorem acpiSendIoctlSynchronously_answers (input : List (BitVec 8))
    (hdriver : Delivers env method) (hsize : sizeofEvalOutputBuffer ≤ size)
    (hk : AllInBounds k.accesses) :
    AllInBounds (acpiSendIoctlSynchronously env input size (fun _ => 0) k).2.accesses
      ∧ k.allocations
        ≤ (acpiSendIoctlSynchronously env input size (fun _ => 0) k).2.allocations
      ∧ (env.Fails k (acpiSendIoctlSynchronously env input size (fun _ => 0) k).2
          ∧ (acpiSendIoctlSynchronously env input size (fun _ => 0) k).1.status
            = statusInsufficientResources
          ∧ (acpiSendIoctlSynchronously env input size (fun _ => 0) k).2.requests = k.requests
        ∨ (acpiSendIoctlSynchronously env input size (fun _ => 0) k).1.Answers size
              (method k.requests.length input)
          ∧ (acpiSendIoctlSynchronously env input size (fun _ => 0) k).2.requests
            = k.requests ++ [⟨input, size⟩]) := by
  unfold acpiSendIoctlSynchronously
  cases hirp : k.allocate env .irp with
  | mk irp k₁ =>
    obtain ⟨haccesses₁, hrequests₁, hcount₁⟩ := allocate_keeps hirp
    rw [← haccesses₁] at hk
    cases irp with
    | none =>
      exact ⟨hk, by dsimp only; omega, Or.inl ⟨fails_of_allocate hirp, rfl, hrequests₁⟩⟩
    | some irp =>
      dsimp only
      cases hbuffer : k₁.allocate env (.pool · .ioctlIntermediateBuffer) with
      | mk buffer k₂ =>
        obtain ⟨haccesses₂, hrequests₂, hcount₂⟩ := allocate_keeps hbuffer
        rw [← haccesses₂] at hk
        rw [hrequests₁] at hrequests₂
        have hmore : k.allocations ≤ k₂.allocations := by omega
        cases buffer with
        | none =>
          have hfails : env.Fails k k₂ := (fails_of_allocate hbuffer).mono (by omega) le_rfl
          exact ⟨hk, hmore, Or.inl ⟨hfails, rfl, hrequests₂⟩⟩
        | some buffer =>
          dsimp only
          have hcopied : AllInBounds
              (k₂.touch 0 input.length (max input.length size)).accesses :=
            allInBounds_touch hk (by omega)
          rw [hrequests₂]
          obtain ⟨hanswers, haccesses⟩ := receiveOutput_answers input k.requests.length hdriver
            hsize (allInBounds_send.mpr hcopied)
          obtain ⟨hsent, hcount⟩ := @receiveOutput_keeps
            ((k₂.touch 0 input.length (max input.length size)).send ⟨input, size⟩) size
            (env.reply k.requests.length ⟨input, size⟩) input.length fun _ => 0
          refine ⟨haccesses, hmore.trans_eq hcount.symm, Or.inr ⟨hanswers, ?_⟩⟩
          exact hsent.trans (by rw [← hrequests₂]; rfl)

end Request

/-! ## 3. The two requests

The first round asks for the length and the second for the result.  A result that fits into the
room for one argument is there after the first; otherwise the second has exactly the room that was
named, and only a result that has grown since is missed. -/

/-- A call without a result. -/
def Evaluated.Fails (e : Evaluated) : Prop := ntSuccess e.status = false ∧ e.buffer = none

/-- **What `AcpiEvaluateMethod` comes back with**, and its requests: `first` and `second` are what
the method returns for the one and for the other, and the call goes from `k` to `k'`. -/
inductive EvaluatesTo (env : AcpiEnv) (k k' : AcpiKernel) (input : List (BitVec 8))
    (first second : Option (List (BitVec 8))) : Evaluated → List IoctlRequest → Prop
  | noResources {requests : List IoctlRequest} : env.Fails k k' → requests.length ≤ 2 →
      EvaluatesTo env k k' input first second ⟨statusInsufficientResources, none⟩ requests
  | missing {e : Evaluated} : first = none → e.Fails →
      EvaluatesTo env k k' input first second e [⟨input, sizeofEvalOutputBuffer⟩]
  | short {e : Evaluated} {r : List (BitVec 8)} : first = some r →
      r.length ≤ sizeofEvalOutputBuffer → e.Whole r →
      EvaluatesTo env k k' input first second e [⟨input, sizeofEvalOutputBuffer⟩]
  | long {e : Evaluated} {r r' : List (BitVec 8)} : first = some r → second = some r' →
      sizeofEvalOutputBuffer < r.length → r'.length ≤ r.length → e.Whole r' →
      EvaluatesTo env k k' input first second e
        [⟨input, sizeofEvalOutputBuffer⟩, ⟨input, r.length⟩]
  | grown {r r' : List (BitVec 8)} : first = some r → second = some r' →
      sizeofEvalOutputBuffer < r.length → r.length < r'.length →
      EvaluatesTo env k k' input first second ⟨statusBufferOverflow, none⟩
        [⟨input, sizeofEvalOutputBuffer⟩, ⟨input, r.length⟩]
  | vanished {e : Evaluated} {r : List (BitVec 8)} : first = some r → second = none →
      sizeofEvalOutputBuffer < r.length → e.Fails →
      EvaluatesTo env k k' input first second e
        [⟨input, sizeofEvalOutputBuffer⟩, ⟨input, r.length⟩]

section Loop

variable {env : AcpiEnv} {method : Nat → List (BitVec 8) → Option (List (BitVec 8))}
  {k : AcpiKernel} {size : Nat}

/-- **One round of the loop**: no resources, no result, the result, or the length that it needs. -/
theorem evaluateLoop_round (input : List (BitVec 8)) (retries : Nat)
    (hdriver : Delivers env method) (hsize : sizeofEvalOutputBuffer ≤ size)
    (hk : AllInBounds k.accesses) :
    ∃ k', AllInBounds k'.accesses ∧ k.allocations ≤ k'.allocations
      ∧ ((env.Fails k k' ∧ k'.requests = k.requests ∧ evaluateLoop env input retries size k
            = (⟨statusInsufficientResources, none⟩, k'))
        ∨ (k'.requests = k.requests ++ [⟨input, size⟩]
          ∧ ((method k.requests.length input = none
              ∧ ∃ e : Evaluated, e.Fails ∧ evaluateLoop env input retries size k = (e, k'))
            ∨ ∃ r, method k.requests.length input = some r
              ∧ ((r.length ≤ size
                  ∧ ∃ e : Evaluated, e.Whole r ∧ evaluateLoop env input retries size k = (e, k'))
                ∨ (size < r.length
                  ∧ evaluateLoop env input retries size k
                    = match retries with
                      | 0 => (⟨statusBufferOverflow, none⟩, k')
                      | retries + 1 => evaluateLoop env input retries r.length k'))))) := by
  rw [evaluateLoop]
  cases hblock : k.allocate env (.pool · .evalOutputBuffer) with
  | mk block k₁ =>
    obtain ⟨haccesses, hrequests, hcount⟩ := allocate_keeps hblock
    rw [← haccesses] at hk
    cases block with
    | none =>
      exact ⟨k₁, hk, by omega, Or.inl ⟨fails_of_allocate hblock, hrequests, rfl⟩⟩
    | some block =>
      dsimp only
      obtain ⟨hbounds, hmore, hsent⟩ := acpiSendIoctlSynchronously_answers input hdriver hsize hk
      rw [hrequests] at hsent
      cases hsend : acpiSendIoctlSynchronously env input size (fun _ => 0) k₁ with
      | mk sent k₂ =>
        rw [hsend] at hbounds hmore hsent
        dsimp only at hbounds hmore hsent ⊢
        have hall : k.allocations ≤ k₂.allocations := by omega
        rcases hsent with ⟨hfails, hstatus, hnone⟩ | ⟨hanswers, hone⟩
        · refine ⟨k₂.free (.pool block .evalOutputBuffer), hbounds, hall,
            Or.inl ⟨hfails.mono (by omega) le_rfl, hnone, ?_⟩⟩
          rw [if_neg (by rw [hstatus]; decide), returnBuffer, if_neg (by rw [hstatus]; decide),
            hstatus]
          rfl
        cases hresult : method k.requests.length input with
        | none =>
          rw [hresult] at hanswers
          obtain ⟨hfails, hnot⟩ := fails_of_missing hanswers
          refine ⟨k₂.free (.pool block .evalOutputBuffer), hbounds, hall, Or.inr ⟨hone,
            Or.inl ⟨rfl, ⟨sent.status, none⟩, ⟨hfails, rfl⟩, ?_⟩⟩⟩
          rw [if_neg hnot, returnBuffer, if_neg (by rw [hfails]; decide)]
          rfl
        | some r =>
          rw [hresult] at hanswers
          rcases hanswers with ⟨hfits, hstatus, hload, hreturned⟩ | ⟨hlong, hstatus, hlength⟩
          · have hpos : sizeofEvalOutputBuffer ≤ r.length :=
              (hdriver.isResult k.requests.length input r hresult).size
            refine ⟨k₂, hbounds, hall, Or.inr ⟨hone, Or.inr ⟨r, rfl, Or.inl ⟨hfits,
              ⟨sent.status, some ⟨block, size, sent.output⟩⟩,
              ⟨hstatus, _, rfl, hsize, hfits, hload⟩, ?_⟩⟩⟩⟩
            rw [if_neg (by rw [hstatus]; decide), returnBuffer, if_pos (by rw [hstatus]; rfl),
              hreturned, Option.any_some,
              if_pos (decide_eq_true (Nat.lt_of_lt_of_le (by decide) hpos))]
          · refine ⟨(k₂.touch 4 4 size).free (.pool block .evalOutputBuffer),
              allInBounds_touch hbounds (Nat.le_trans (by decide) hsize), hall,
              Or.inr ⟨hone, Or.inr ⟨r, rfl, Or.inr ⟨hlong, ?_⟩⟩⟩⟩
            refine (if_pos hstatus).trans ?_
            cases retries with
            | zero => rw [hstatus]
            | succ n => rw [hlength]

/-- **Two requests are enough**: the caller has the whole result, however long it is, unless an
allocation fails, there is no such method, or the result has grown between the two requests.  The
first request fails with the length that the result needs, and the second has a buffer of that
length. -/
theorem acpiEvaluateMethod_result (env : AcpiEnv)
    (method : Nat → List (BitVec 8) → Option (List (BitVec 8))) (hdriver : Delivers env method)
    (input : List (BitVec 8)) (k : AcpiKernel) (hk : AllInBounds k.accesses) :
    ∃ e requests k', acpiEvaluateMethod env input k = (e, k')
      ∧ k'.requests = k.requests ++ requests
      ∧ EvaluatesTo env k k' input (method k.requests.length input)
        (method (k.requests.length + 1) input) e requests
      ∧ AllInBounds k'.accesses := by
  unfold acpiEvaluateMethod
  obtain ⟨k₁, hbounds₁, hmore₁, ⟨hfails, hrequests, heq⟩ | ⟨hrequests, ⟨hnone, e, he, heq⟩ |
    ⟨r, hfirst, ⟨hfits, e, hwhole, heq⟩ | ⟨hlong, heq⟩⟩⟩⟩ :=
    evaluateLoop_round input 1 hdriver (Nat.le_refl _) hk
  · exact ⟨_, [], k₁, heq, by rw [hrequests, List.append_nil], .noResources hfails (by decide),
      hbounds₁⟩
  · exact ⟨e, _, k₁, heq, hrequests, .missing hnone he, hbounds₁⟩
  · exact ⟨e, _, k₁, heq, hrequests, .short hfirst hfits hwhole, hbounds₁⟩
  dsimp only at heq
  rw [heq]
  have hcount : k₁.requests.length = k.requests.length + 1 := by
    rw [hrequests, List.length_append, List.length_singleton]
  obtain ⟨k₂, hbounds₂, -, hround⟩ :=
    evaluateLoop_round input 0 hdriver (Nat.le_of_lt hlong) hbounds₁
  rw [hcount, hrequests, List.append_assoc] at hround
  rcases hround with ⟨hfails, hrequests₂, heq₂⟩ | ⟨hrequests₂, ⟨hnone, e, he, heq₂⟩ |
    ⟨r', hsecond, ⟨hfits₂, e, hwhole, heq₂⟩ | ⟨hgrown, heq₂⟩⟩⟩
  · exact ⟨_, _, k₂, heq₂, hrequests₂,
      .noResources (hfails.mono hmore₁ le_rfl) (Nat.le_succ 1), hbounds₂⟩
  · exact ⟨e, _, k₂, heq₂, hrequests₂, .vanished hfirst hnone hlong he, hbounds₂⟩
  · exact ⟨e, _, k₂, heq₂, hrequests₂, .long hfirst hsecond hlong hfits₂ hwhole, hbounds₂⟩
  · exact ⟨_, _, k₂, heq₂, hrequests₂, .grown hfirst hsecond hlong hgrown, hbounds₂⟩

/-- A method with a result of 32 bytes needs both requests. -/
def longMethod (input : List (BitVec 8)) : Option (List (BitVec 8)) :=
  if input = [0x5F] then
    some (leBytes 4 evalOutputBufferSignature ++ leBytes 4 32 ++ leBytes 4 1 ++ List.replicate 20 0)
  else none

theorem acpiEvaluateMethod_result_long :
    ∃ e requests k', acpiEvaluateMethod (acpiDriver fun _ => longMethod) [0x5F] ⟨0, [], [], []⟩
        = (e, k')
      ∧ k'.requests = [] ++ requests
      ∧ EvaluatesTo (acpiDriver fun _ => longMethod) ⟨0, [], [], []⟩ k' [0x5F]
        (longMethod [0x5F]) (longMethod [0x5F]) e requests
      ∧ AllInBounds k'.accesses :=
  acpiEvaluateMethod_result _ _ (delivers_acpiDriver fun _ input r h => by
    unfold longMethod at h
    split at h
    · rw [← Option.some.inj h]
      exact ⟨by decide, by decide, by decide, by decide⟩
    · cases h) [0x5F] ⟨0, [], [], []⟩ allInBounds_nil

end Loop

/-! ## 4. The mask of a `_DSM`

The mask is the data of the first argument, taken as a number of as many bytes as it has.  What was
sent for it is the input of `DsmInput.lean`, so the firmware is asked for the GUID and the revision
of the caller and for function 0. -/

/-- An argument as firmware returns it: four bytes of data at least. -/
def resultArgument (a : Nat × List (BitVec 8)) : List (BitVec 8) :=
  argumentBytes a.1 a.2 ++ List.replicate (4 - a.2.length) 0

/-- **The bytes of a result with these arguments**, each a type and its data. -/
def resultBytes (args : List (Nat × List (BitVec 8))) : List (BitVec 8) :=
  leBytes 4 evalOutputBufferSignature ++ leBytes 4 (12 + (args.flatMap resultArgument).length)
    ++ leBytes 4 args.length ++ args.flatMap resultArgument

/-- What the firmware says: the functions that it has are the bits of the data of its first
argument, a buffer of one, two or four bytes. -/
def supportedFunctions : List (Nat × List (BitVec 8)) → Option Nat
  | (type, data) :: _ =>
    if type = methodArgumentBuffer ∧ data.length ∈ [1, 2, 4] then some (leNat data) else none
  | [] => none

/-- What is sent: the bytes of the input, and zeros where the package is short. -/
def DsmFunction.sentBytes (d : DsmFunction) : List (BitVec 8) :=
  d.inputBytes ++ List.replicate (4 - d.functionArgumentsSize.toNat) 0

theorem dsmInputBytes_eq (env : AcpiEnv) (address : Nat) (d : DsmFunction) :
    dsmInputBytes env address d = d.sentBytes := by
  obtain ⟨f, hf, hbuilding⟩ := formatDsmFunctionInputBuffer_eq d env.memory address
  have hsize := inputBufferSize_eq d
  have hlength : d.inputBytes.length = 56 + d.functionArgumentsSize.toNat := by
    simp only [DsmFunction.inputBytes, List.length_append, length_inputHeaderBytes,
      length_firstBytes, length_argumentBytes, length_packageBytes]
    omega
  have hskip := hbuilding.skip (4 - d.functionArgumentsSize.toNat) (by omega)
  have hsent : d.sentBytes.length = d.inputBufferSize := by
    rw [DsmFunction.sentBytes, List.length_append, List.length_replicate]
    omega
  rw [dsmInputBytes, hf]
  dsimp only
  rw [← hsent]
  exact hskip.holds

section Mask

variable {b : OutputBuffer} {args : List (Nat × List (BitVec 8))}

/-- **The mask is read inside the block**: the smallest block has room for an argument. -/
theorem dsmMask_inBounds (hsize : sizeofEvalOutputBuffer ≤ b.size) : (dsmMask b).InBounds := by
  have hblock : 20 ≤ b.size := hsize
  have hread : ∀ offset n, offset + n ≤ 20 →
      (⟨⟨offset, n⟩, [⟨0, b.size⟩]⟩ : Access).InBounds := by
    intro offset n h
    refine inBounds_one.mpr (Extent.bytes_subset_iff.mpr (Or.inr ⟨Nat.zero_le _, ?_⟩))
    dsimp only
    omega
  unfold dsmMask
  simp only [Traced.inBounds_read_bind, Traced.inBounds_guard]
  refine ⟨hread 4 4 (by decide), fun _ => ⟨hread 8 4 (by decide), fun _ =>
    ⟨hread outputArgument 2 (by decide), fun _ => ⟨hread (outputArgument + 2) 2 (by decide), ?_⟩⟩⟩⟩
  split
  · rename_i hlength
    refine Traced.inBounds_read_bind.mpr ⟨hread _ _ ?_, Traced.inBounds_pure _⟩
    have hfour : dataLength b.bytes outputArgument ≤ 4 := by
      simp only [List.mem_cons, List.not_mem_nil, or_false] at hlength
      omega
    have hdata : outputArgument + 4 = 16 := rfl
    omega
  · exact Traced.inBounds_throw _

/-- The mask of a result is what the firmware says. -/
theorem dsmMask_result (hresult : IsResult (resultBytes args))
    (hargs : ∀ a ∈ args, a.1 < 65536 ∧ a.2.length < 65536)
    (hload : load b.bytes 0 (resultBytes args).length = resultBytes args) :
    (dsmMask b).result = match supportedFunctions args with
      | some mask => .ok mask
      | none => .error statusAcpiInvalidData := by
  have hsize := hresult.size
  have hfits := hresult.fits
  cases args with
  | nil => exact absurd hsize (by decide)
  | cons a rest =>
    obtain ⟨type, data⟩ := a
    obtain ⟨htype, hdata⟩ := hargs _ List.mem_cons_self
    have hlength : (resultBytes ((type, data) :: rest)).length
        = 12 + (((type, data) :: rest).flatMap resultArgument).length := by
      simp only [resultBytes, List.length_append, length_leBytes]
    have houtput : outputLength b.bytes = (resultBytes ((type, data) :: rest)).length := by
      have hpiece := load_piece (leBytes 4 evalOutputBufferSignature)
        (leBytes 4 (12 + (((type, data) :: rest).flatMap resultArgument).length)) _
        (by simpa only [resultBytes, List.append_assoc] using hload)
      simp only [length_leBytes, Nat.zero_add] at hpiece
      rw [outputLength, loadLe, hpiece, leNat_leBytes, ← hlength]
      exact Nat.mod_eq_of_lt hfits
    have hcount : outputCount b.bytes ≠ 0 := by
      have hwindow := load_window b.bytes 0 (show 8 + 4 ≤ _ from Nat.le_trans (by decide) hsize)
      rw [hload, Nat.zero_add] at hwindow
      rw [outputCount, loadLe, hwindow]
      exact hresult.count
    have hargument : HasArgument b.bytes outputArgument type data := by
      refine hasArgument_of_load htype hdata ?_
      have hpiece := load_piece
        (leBytes 4 evalOutputBufferSignature
          ++ leBytes 4 (12 + (((type, data) :: rest).flatMap resultArgument).length)
          ++ leBytes 4 ((type, data) :: rest).length)
        (argumentBytes type data) (List.replicate (4 - data.length) 0 ++ rest.flatMap resultArgument)
        (by simpa only [resultBytes, List.flatMap_cons, resultArgument, List.append_assoc]
          using hload)
      simp only [length_argumentBytes, List.length_append, length_leBytes, Nat.zero_add] at hpiece
      exact hpiece
    obtain ⟨hargType, hdataLength, hargData⟩ := hargument
    have hvalue : loadLe b.bytes (outputArgument + 4) data.length = leNat data := by
      rw [argData, hdataLength] at hargData
      rw [loadLe, hargData]
    unfold dsmMask
    simp only [Traced.result_read_bind]
    rw [if_neg (by omega), Traced.result_read_bind, if_neg hcount, Traced.result_read_bind,
      hargType, hdataLength, hvalue]
    unfold supportedFunctions
    dsimp only
    by_cases hbuffer : type = methodArgumentBuffer
    · rw [if_neg (not_not_intro hbuffer), Traced.result_read_bind]
      by_cases hmem : data.length ∈ [1, 2, 4]
      · rw [if_pos hmem, if_pos ⟨hbuffer, hmem⟩]
        rfl
      · rw [if_neg hmem, if_neg fun h => hmem h.2]
        rfl
    · rw [if_pos hbuffer, if_neg fun h => hbuffer h.1]
      rfl

/-- **A query has the mask that the firmware returns** to the input with the GUID and the revision,
unless an allocation fails; a result of another form is refused.  Nothing is read outside of the
buffers on the way.  The input is encoded, evaluated and given back, and the mask is the number in
the data of the first argument. -/
theorem acpiQueryDsm_mask (env : AcpiEnv) (method : List (BitVec 8) → Option (List (BitVec 8)))
    (hdriver : Delivers env fun _ => method) (query : DsmFunction)
    (args : List (Nat × List (BitVec 8))) (hargs : ∀ a ∈ args, a.1 < 65536 ∧ a.2.length < 65536)
    (hmethod : method query.sentBytes = some (resultBytes args)) (k : AcpiKernel)
    (hk : AllInBounds k.accesses) :
    ∃ k', AllInBounds k'.accesses
      ∧ (env.Fails k k' ∧ acpiQueryDsm env query k = (statusInsufficientResources, none, k')
        ∨ acpiQueryDsm env query k = match supportedFunctions args with
          | some mask => (statusSuccess, some mask, k')
          | none => (statusAcpiInvalidData, none, k')) := by
  unfold acpiQueryDsm acpiExecuteDsmFunction
  cases hblock : k.allocate env (.pool · .evalInputBuffer) with
  | mk block k₁ =>
    obtain ⟨haccesses, -, hcount⟩ := allocate_keeps hblock
    rw [← haccesses] at hk
    cases block with
    | none => exact ⟨k₁, hk, Or.inl ⟨fails_of_allocate hblock, rfl⟩⟩
    | some block =>
      dsimp only
      rw [dsmInputBytes_eq]
      obtain ⟨e, requests, k₂, heq, -, hresult, hbounds⟩ := acpiEvaluateMethod_result env
        (fun _ => method) hdriver query.sentBytes k₁ hk
      rw [hmethod] at hresult
      rw [heq]
      have hwhole : (env.Fails k k₂ ∧ e = ⟨statusInsufficientResources, none⟩)
          ∨ e.Whole (resultBytes args) := by
        cases hresult with
        | noResources hfails => exact Or.inl ⟨hfails.mono (by omega) le_rfl, rfl⟩
        | missing hnone => cases hnone
        | short hfirst _ hwhole =>
          cases hfirst
          exact Or.inr hwhole
        | long _ hsecond _ _ hwhole =>
          cases hsecond
          exact Or.inr hwhole
        | grown hfirst hsecond _ hgrown =>
          cases hfirst
          cases hsecond
          exact absurd hgrown (Nat.lt_irrefl _)
        | vanished _ hnone => cases hnone
      rcases hwhole with ⟨hfails, rfl⟩ | ⟨hstatus, b, hb, hblockSize, -, hload⟩
      · exact ⟨k₂.free (.pool block .evalInputBuffer), hbounds, Or.inl ⟨hfails, rfl⟩⟩
      · obtain ⟨status, buffer⟩ := e
        dsimp only at hb
        subst hb
        have hisResult := hdriver.isResult 0 query.sentBytes _ hmethod
        have hmask := dsmMask_result hisResult hargs hload
        have hinside := dsmMask_inBounds hblockSize
        refine ⟨({ k₂.free (.pool block .evalInputBuffer) with
          accesses := k₂.accesses ++ (dsmMask b).accesses } : AcpiKernel).free b.kernelBlock,
          allInBounds_append.mpr ⟨hbounds, hinside⟩, Or.inr ?_⟩
        dsimp only
        rw [if_pos rfl]
        dsimp only
        cases hfunctions : supportedFunctions args with
        | some mask =>
          rw [hfunctions] at hmask
          rw [hmask]
          rfl
        | none =>
          rw [hfunctions] at hmask
          rw [hmask]
          rfl

/-- Firmware that has the functions 0, 1 and 8. -/
def wordMethod (input : List (BitVec 8)) : Option (List (BitVec 8)) :=
  if input = (dsmQuery (List.replicate 16 0x11) rfl 1).sentBytes then
    some (resultBytes [(methodArgumentBuffer, [0x03, 0x01])])
  else none

theorem acpiQueryDsm_mask_word :
    ∃ k', AllInBounds k'.accesses
      ∧ ((acpiDriver fun _ => wordMethod).Fails ⟨0, [], [], []⟩ k'
          ∧ acpiQueryDsm (acpiDriver fun _ => wordMethod)
            (dsmQuery (List.replicate 16 0x11) rfl 1) ⟨0, [], [], []⟩
          = (statusInsufficientResources, none, k')
        ∨ acpiQueryDsm (acpiDriver fun _ => wordMethod)
            (dsmQuery (List.replicate 16 0x11) rfl 1) ⟨0, [], [], []⟩
          = match supportedFunctions [(methodArgumentBuffer, [0x03, 0x01])] with
          | some mask => (statusSuccess, some mask, k')
          | none => (statusAcpiInvalidData, none, k')) :=
  acpiQueryDsm_mask _ wordMethod
    (delivers_acpiDriver fun _ input r h => by
      unfold wordMethod at h
      split at h
      · rw [← Option.some.inj h]
        exact ⟨by decide, by decide, by decide, by decide⟩
      · cases h)
    (dsmQuery (List.replicate 16 0x11) rfl 1) [(methodArgumentBuffer, [0x03, 0x01])]
    (by decide) (if_pos rfl) ⟨0, [], [], []⟩ allInBounds_nil

end Mask

end WoaRk3576.Acpi
