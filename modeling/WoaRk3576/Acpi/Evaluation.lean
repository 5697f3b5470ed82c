/-
# Evaluating a method: `AcpiEvaluateMethod` and what is built on it

drivers/shared/acpiutil.cpp asks the ACPI driver twice at most: with room for one argument, and
then with the room that the first answer has asked for.  `AcpiEnv` is what is not in the code:
which allocations succeed, and what the ACPI driver answers to each request.  An `AcpiKernel` keeps
what the code does to the world: its requests, the blocks that it takes and gives back, and the
bytes of its buffers that it touches.

`acpiCalls_settled` is about any run of calls: what is not given back are exactly the buffers that
the callers have been given.

* A block that is given back while nobody has it makes `settle` fail, so that the ledger has a sum
  is already that nothing is freed twice, or with another tag.
* Each routine has one lemma about its ledger: a request gives back what it takes
  (`holds_acpiSendIoctlSynchronously`); the loop leaves the buffer that it returns and nothing else
  (`holds_evaluateLoop`, an induction over the requests that are left); and `AcpiQueryDsm` leaves
  nothing (`holds_acpiQueryDsm`).
* A buffer is returned exactly where the status is a success, and it is then a result with a
  signature and an argument: `AcpiSendIoctlSynchronously` tests both on what was copied
  (`receiveOutput_success`).  The caller of a failing function is left without a pointer to free.

Nothing is assumed of the ACPI driver.  It may answer with any status and any bytes, and ask for
any room; `EvaluationResult.lean` is about one that keeps to its documentation.
-/
import WoaRk3576.Acpi.DsmInput
import WoaRk3576.Lib.Ledger
import WoaRk3576.Lib.Transition

namespace WoaRk3576.Acpi

open WoaRk3576.Lib

/-! ## 1. The ACPI driver and the pool

Each allocation has a number, and the environment says for each whether it succeeds and where its
block lies.  The ledger notes what is taken and given back under that number and the tag, so
freeing with the wrong tag counts as freeing something nobody has. -/

def statusInsufficientResources : NTSTATUS := 0xC000009A
def statusBufferTooSmall : NTSTATUS := 0xC0000023
def statusNotSupported : NTSTATUS := 0xC00000BB

/-- The tags of the pool blocks. -/
inductive PoolTag
  | ioctlIntermediateBuffer | evalInputBuffer | evalOutputBuffer
  deriving DecidableEq

/-- What is allocated, by the number of the allocation.  A pool block is freed with its tag. -/
inductive KernelBlock
  | irp (n : Nat)
  | pool (n : Nat) (tag : PoolTag)
  deriving DecidableEq

/-- `IOCTL_ACPI_EVAL_METHOD`, with the input and the size of the output buffer. -/
structure IoctlRequest where
  input : List (BitVec 8)
  outputBufferLength : Nat
  deriving DecidableEq

/-- `IoStatus`, and the system buffer as the driver leaves it.  `Information` counts bytes of that
buffer, whose length is a `ULONG`. -/
structure IoctlReply where
  status : NTSTATUS
  information : Nat
  systemBuffer : Memory
  information_lt : information < 2 ^ 32

/-- **What is not in the code**: which allocations succeed, where the pool blocks lie, and what the
driver answers to each request. -/
structure AcpiEnv where
  allocates : Nat → Bool
  address : Nat → Nat
  memory : Memory
  reply : Nat → IoctlRequest → IoctlReply

/-- **What the code has done**, oldest first. -/
structure AcpiKernel where
  allocations : Nat
  requests : List IoctlRequest
  entries : List (Entry KernelBlock)
  accesses : List Access

namespace AcpiKernel

/-- An allocation: the number of the block, unless it fails. -/
def allocate (env : AcpiEnv) (block : Nat → KernelBlock) (k : AcpiKernel) :
    Option Nat × AcpiKernel :=
  if env.allocates k.allocations then
    (some k.allocations, { k with
      allocations := k.allocations + 1
      entries := k.entries ++ [.take (block k.allocations)] })
  else (none, { k with allocations := k.allocations + 1 })

/-- `IoFreeIrp`, `ExFreePoolWithTag`. -/
def free (block : KernelBlock) (k : AcpiKernel) : AcpiKernel :=
  { k with entries := k.entries ++ [.drop block] }

/-- The bytes of a buffer of `size` bytes that are touched. -/
def touch (offset n size : Nat) (k : AcpiKernel) : AcpiKernel :=
  { k with accesses := k.accesses ++ [⟨⟨offset, n⟩, [⟨0, size⟩]⟩] }

def send (request : IoctlRequest) (k : AcpiKernel) : AcpiKernel :=
  { k with requests := k.requests ++ [request] }

end AcpiKernel

/-! ## 2. `AcpiSendIoctlSynchronously`

One request to the driver.  Its output is copied for a success and for a buffer that was too small,
since there the header says what is needed, and a success is tested for its signature and for an
argument before anybody sees it. -/

/-- The statuses for which the output is copied. -/
def copiesOutput (status : NTSTATUS) : Bool :=
  ntSuccess status || status == statusBufferOverflow || status == statusBufferTooSmall

/-- `RtlCopyMemory` to the start of a buffer. -/
def copyFront (src : Memory) (n : Nat) (dst : Memory) : Memory := store dst 0 (load src 0 n)

/-- The output has the signature, and an argument. -/
def validOutput (output : Memory) : Bool :=
  outputSignature output == evalOutputBufferSignature && outputCount output != 0

/-- The status, `*OutputBufferPtr`, and `*BytesReturnedCountPtr` where that is written. -/
structure SendResult where
  status : NTSTATUS
  output : Memory
  bytesReturned : Option Nat

/-- Behind `IoSynchronousCallDriver`: the copy of the output, and the tests of a result.
`*BytesReturnedCountPtr` is a `ULONG`. -/
def receiveOutput (reply : IoctlReply) (inputSize outputBufferSize : Nat) (output : Memory)
    (k : AcpiKernel) : SendResult × AcpiKernel :=
  if copiesOutput reply.status then
    let k := k.touch 0 reply.information (max inputSize outputBufferSize)
    let k := k.touch 0 reply.information outputBufferSize
    let output := copyFront reply.systemBuffer reply.information output
    if ntSuccess reply.status then
      let k := (k.touch 0 4 outputBufferSize).touch 8 4 outputBufferSize
      if validOutput output then (⟨reply.status, output, some (reply.information % 2 ^ 32)⟩, k)
      else (⟨statusAcpiInvalidData, output, none⟩, k)
    else (⟨reply.status, output, none⟩, k)
  else (⟨reply.status, output, none⟩, k)

/-- `AcpiSendIoctlSynchronously`. -/
def acpiSendIoctlSynchronously (env : AcpiEnv) (input : List (BitVec 8)) (outputBufferSize : Nat)
    (output : Memory) (k : AcpiKernel) : SendResult × AcpiKernel :=
  match k.allocate env .irp with
  | (none, k) => (⟨statusInsufficientResources, output, none⟩, k)
  | (some irp, k) =>
    match k.allocate env (.pool · .ioctlIntermediateBuffer) with
    | (none, k) => (⟨statusInsufficientResources, output, none⟩, k.free (.irp irp))
    | (some buffer, k) =>
      let request : IoctlRequest := ⟨input, outputBufferSize⟩
      let reply := env.reply k.requests.length request
      let k := (k.touch 0 input.length (max input.length outputBufferSize)).send request
      let (sent, k) := receiveOutput reply input.length outputBufferSize output k
      (sent, (k.free (.irp irp)).free (.pool buffer .ioctlIntermediateBuffer))

/-! ## 3. `AcpiEvaluateMethod`

The loop asks with room for one argument first.  If this is not enough it asks once more, with the
room that the answer names; there is no third request. -/

/-- A buffer that a caller is given. -/
structure OutputBuffer where
  block : Nat
  size : Nat
  bytes : Memory

/-- The block of a buffer. -/
def OutputBuffer.kernelBlock (b : OutputBuffer) : KernelBlock := .pool b.block .evalOutputBuffer

/-- The status, and `*ReturnBufferPptr` where there is a buffer. -/
structure Evaluated where
  status : NTSTATUS
  buffer : Option OutputBuffer

/-- Behind the loop, where the last status is not `STATUS_BUFFER_OVERFLOW`. -/
def returnBuffer (sent : SendResult) (b : OutputBuffer) (k : AcpiKernel) : Evaluated × AcpiKernel :=
  if ntSuccess sent.status then
    if sent.bytesReturned.any (0 < ·) then (⟨sent.status, some b⟩, k)
    else (⟨sent.status, none⟩, k)
  else (⟨sent.status, none⟩, k.free b.kernelBlock)

/-- The loop of `AcpiEvaluateMethod`, with the requests that are left behind this one. -/
def evaluateLoop (env : AcpiEnv) (input : List (BitVec 8)) (retries outputBufferSize : Nat)
    (k : AcpiKernel) : Evaluated × AcpiKernel :=
  match k.allocate env (.pool · .evalOutputBuffer) with
  | (none, k) => (⟨statusInsufficientResources, none⟩, k)
  | (some block, k) =>
    let (sent, k) := acpiSendIoctlSynchronously env input outputBufferSize (fun _ => 0) k
    if sent.status = statusBufferOverflow then
      let k := (k.touch 4 4 outputBufferSize).free (.pool block .evalOutputBuffer)
      match retries with
      | 0 => (⟨sent.status, none⟩, k)
      | retries + 1 => evaluateLoop env input retries (outputLength sent.output) k
    else returnBuffer sent ⟨block, outputBufferSize, sent.output⟩ k

/-- `AcpiEvaluateMethod`: two requests at most. -/
def acpiEvaluateMethod (env : AcpiEnv) (input : List (BitVec 8)) (k : AcpiKernel) :
    Evaluated × AcpiKernel :=
  evaluateLoop env input 1 sizeofEvalOutputBuffer k

/-! ## 4. `_DSD` and `_DSM`

The two methods that the drivers evaluate.  A function of a `_DSM` takes an input that is formatted
first and is given back whatever happens, and the query for the mask of functions is one such call
whose result is not handed on. -/

/-- `ACPI_EVAL_INPUT_BUFFER_SIGNATURE`, 'BieA'. -/
def evalInputBufferSignature : Nat := 0x42696541

/-- An `ACPI_EVAL_INPUT_BUFFER` with the name of a method. -/
def evalInputBuffer (methodName : List (BitVec 8)) : List (BitVec 8) :=
  leBytes 4 evalInputBufferSignature ++ methodName

/-- `ACPI_METHOD_ULONG_DSD`, 'DSD_' as it lies in memory. -/
def methodNameDsd : List (BitVec 8) := [0x5F, 0x44, 0x53, 0x44]

/-- `AcpiQueryDsd`. -/
def acpiQueryDsd (env : AcpiEnv) (k : AcpiKernel) : Evaluated × AcpiKernel :=
  acpiEvaluateMethod env (evalInputBuffer methodNameDsd) k

/-- The input of a function, as it is sent. -/
def dsmInputBytes (env : AcpiEnv) (address : Nat) (d : DsmFunction) : List (BitVec 8) :=
  match formatDsmFunctionInputBuffer env.memory (some address) d with
  | some i => load i.filled.memory i.buffer i.size
  | none => []

/-- `AcpiExecuteDsmFunction`: `returns` says whether `ReturnBufferPptr` is given. -/
def acpiExecuteDsmFunction (env : AcpiEnv) (d : DsmFunction) (returns : Bool) (k : AcpiKernel) :
    Evaluated × AcpiKernel :=
  match k.allocate env (.pool · .evalInputBuffer) with
  | (none, k) => (⟨statusInsufficientResources, none⟩, k)
  | (some block, k) =>
    let (evaluated, k) := acpiEvaluateMethod env (dsmInputBytes env (env.address block) d) k
    let k := k.free (.pool block .evalInputBuffer)
    if returns then (evaluated, k)
    else
      match evaluated.buffer with
      | none => (evaluated, k)
      | some b => (⟨evaluated.status, none⟩, k.free b.kernelBlock)

/-- The mask in the result of the query, and the bytes of the result that are read for it. -/
def dsmMask (b : OutputBuffer) : Traced NTSTATUS Nat := do
  Traced.read ⟨⟨4, 4⟩, [⟨0, b.size⟩]⟩
  if outputLength b.bytes < sizeofEvalOutputBuffer then Traced.throw statusAcpiInvalidData
  else do
    Traced.read ⟨⟨8, 4⟩, [⟨0, b.size⟩]⟩
    if outputCount b.bytes = 0 then Traced.throw statusAcpiInvalidData
    else do
      Traced.read ⟨⟨outputArgument, 2⟩, [⟨0, b.size⟩]⟩
      if argType b.bytes outputArgument ≠ methodArgumentBuffer then
        Traced.throw statusAcpiInvalidData
      else do
        Traced.read ⟨⟨outputArgument + 2, 2⟩, [⟨0, b.size⟩]⟩
        if dataLength b.bytes outputArgument ∈ [1, 2, 4] then do
          Traced.read ⟨⟨outputArgument + 4, dataLength b.bytes outputArgument⟩, [⟨0, b.size⟩]⟩
          pure (loadLe b.bytes (outputArgument + 4) (dataLength b.bytes outputArgument))
        else Traced.throw statusAcpiInvalidData

/-- `ACPI_DSM_FUNCTION_IDX_QUERY`, without arguments. -/
def dsmQuery (guid : List (BitVec 8)) (hguid : guid.length = 16) (revisionId : BitVec 32) :
    DsmFunction where
  guid := guid
  guid_length := hguid
  revisionId := revisionId
  functionIdx := 0
  functionArguments := none
  functionArgumentsSize := 0

/-- `AcpiQueryDsm`: the status, and `*SupportedFunctionsMaskPtr` where that is written. -/
def acpiQueryDsm (env : AcpiEnv) (query : DsmFunction) (k : AcpiKernel) :
    NTSTATUS × Option Nat × AcpiKernel :=
  match acpiExecuteDsmFunction env query true k with
  | (⟨status, none⟩, k) => (if ntSuccess status then statusAcpiInvalidData else status, none, k)
  | (⟨_, some b⟩, k) =>
    let k := { k with accesses := k.accesses ++ (dsmMask b).accesses }
    match (dsmMask b).result with
    | .ok mask => (statusSuccess, some mask, k.free b.kernelBlock)
    | .error status => (status, none, k.free b.kernelBlock)

/-! ## 5. What is held

`Holds` says which blocks a state of the kernel has taken and not given back.  It can be said only
of a ledger that settles, in which nothing was freed that was not held. -/

/-- **The blocks that are held**: what has been taken and not been given back. -/
def Holds (k : AcpiKernel) (s : Multiset KernelBlock) : Prop := settle 0 k.entries = some s

/-- The blocks of the buffer, where there is one. -/
def blocksOf (b : Option OutputBuffer) : Multiset KernelBlock :=
  (b.toList.map OutputBuffer.kernelBlock : List KernelBlock)

@[simp]
theorem blocksOf_none : blocksOf none = 0 := rfl

@[simp]
theorem blocksOf_some_add (b : OutputBuffer) (s : Multiset KernelBlock) :
    blocksOf (some b) + s = b.kernelBlock ::ₘ s := rfl

section Held

variable {env : AcpiEnv} {block : Nat → KernelBlock} {b : KernelBlock} {k k' : AcpiKernel}
  {s : Multiset KernelBlock} {n : Nat}

theorem holds_of_allocate_some (hk : Holds k s) (h : k.allocate env block = (some n, k')) :
    Holds k' (block n ::ₘ s) := by
  unfold AcpiKernel.allocate at h
  split at h
  · cases h
    exact settle_concat_take hk _
  · cases h

theorem holds_of_allocate_none (hk : Holds k s) (h : k.allocate env block = (none, k')) :
    Holds k' s := by
  unfold AcpiKernel.allocate at h
  split at h
  · cases h
  · cases h
    exact hk

theorem holds_free (h : Holds k (b ::ₘ s)) : Holds (k.free b) s := settle_concat_drop h

@[simp]
theorem holds_touch {offset size : Nat} : Holds (k.touch offset n size) s ↔ Holds k s := Iff.rfl

@[simp]
theorem holds_send {request : IoctlRequest} : Holds (k.send request) s ↔ Holds k s := Iff.rfl

end Held

/-! ## 6. What an answer becomes

What the caller sees of an answer that may be anything.  The buffer was zeroed before the request,
and zeros have no signature; so a driver that reports a success without output cannot pass for one
with a result. -/

theorem copyFront_zero (src dst : Memory) : copyFront src 0 dst = dst := by
  funext j
  exact store_of_apart dst (by simp)

/-- A buffer of zeros is not a result. -/
theorem validOutput_zeros : validOutput (fun _ => 0) = false := by decide

section Receive

variable {reply : IoctlReply} {inputSize outputBufferSize : Nat} {output : Memory}
  {k : AcpiKernel} {s : Multiset KernelBlock}

theorem holds_receiveOutput :
    Holds (receiveOutput reply inputSize outputBufferSize output k).2 s ↔ Holds k s := by
  unfold receiveOutput
  split
  · dsimp only
    split
    · split
      · exact Iff.rfl
      · exact Iff.rfl
    · exact Iff.rfl
  · exact Iff.rfl

/-- **A success is a result**: it has the signature and an argument, and the driver has returned
some of its bytes. -/
theorem receiveOutput_success
    (h : ntSuccess (receiveOutput reply inputSize outputBufferSize (fun _ => 0) k).1.status) :
    validOutput (receiveOutput reply inputSize outputBufferSize (fun _ => 0) k).1.output = true
      ∧ ∃ n, 0 < n
        ∧ (receiveOutput reply inputSize outputBufferSize (fun _ => 0) k).1.bytesReturned
          = some n := by
  unfold receiveOutput at h ⊢
  split
  · rename_i hcopies
    rw [if_pos hcopies] at h
    dsimp only at h ⊢
    split
    · rename_i hsuccess
      rw [if_pos hsuccess] at h
      split
      · rename_i hvalid
        refine ⟨hvalid, _, ?_, rfl⟩
        rw [Nat.mod_eq_of_lt reply.information_lt]
        refine Nat.pos_of_ne_zero fun hzero => ?_
        rw [hzero, copyFront_zero, validOutput_zeros] at hvalid
        exact Bool.false_ne_true hvalid
      · rename_i hvalid
        rw [if_neg hvalid] at h
        dsimp only at h
        exact absurd h (by decide)
    · rename_i hsuccess
      rw [if_neg hsuccess] at h
      exact absurd h hsuccess
  · rename_i hcopies
    rw [if_neg hcopies] at h
    exact absurd (by rw [copiesOutput, h, Bool.true_or, Bool.true_or]) hcopies

end Receive

section Send

variable {env : AcpiEnv} {input : List (BitVec 8)} {outputBufferSize : Nat} {output : Memory}
  {k : AcpiKernel} {s : Multiset KernelBlock}

/-- **A request gives back what it takes.** -/
theorem holds_acpiSendIoctlSynchronously (env : AcpiEnv) (input : List (BitVec 8))
    (outputBufferSize : Nat) (output : Memory) (hk : Holds k s) :
    Holds (acpiSendIoctlSynchronously env input outputBufferSize output k).2 s := by
  unfold acpiSendIoctlSynchronously
  cases hirp : k.allocate env .irp with
  | mk irp k₁ =>
    cases irp with
    | none => exact holds_of_allocate_none hk hirp
    | some irp =>
      have hk₁ := holds_of_allocate_some hk hirp
      dsimp only
      cases hbuffer : k₁.allocate env (.pool · .ioctlIntermediateBuffer) with
      | mk buffer k₂ =>
        cases buffer with
        | none => exact holds_free (holds_of_allocate_none hk₁ hbuffer)
        | some buffer =>
          have hk₂ := holds_of_allocate_some hk₁ hbuffer
          rw [Multiset.cons_swap] at hk₂
          exact holds_free (holds_free (holds_receiveOutput.mpr hk₂))

theorem acpiSendIoctlSynchronously_success
    (h : ntSuccess (acpiSendIoctlSynchronously env input outputBufferSize (fun _ => 0) k).1.status) :
    validOutput (acpiSendIoctlSynchronously env input outputBufferSize (fun _ => 0) k).1.output
        = true
      ∧ ∃ n, 0 < n
        ∧ (acpiSendIoctlSynchronously env input outputBufferSize (fun _ => 0) k).1.bytesReturned
          = some n := by
  unfold acpiSendIoctlSynchronously at h ⊢
  cases hirp : k.allocate env .irp with
  | mk irp k₁ =>
    rw [hirp] at h
    cases irp with
    | none => exact absurd h (by dsimp only; decide)
    | some irp =>
      dsimp only at h ⊢
      cases hbuffer : k₁.allocate env (.pool · .ioctlIntermediateBuffer) with
      | mk buffer k₂ =>
        rw [hbuffer] at h
        cases buffer with
        | none => exact absurd h (by dsimp only; decide)
        | some buffer => exact receiveOutput_success h

end Send

/-! ## 7. What a call leaves behind

One lemma for each routine, from the inside out: what is held before the call is held after it,
with the buffer that is returned and nothing besides. -/

section Calls

variable (env : AcpiEnv) {k : AcpiKernel} {s : Multiset KernelBlock}

/-- **Behind the loop**: the buffer is given to the caller, or given back. -/
theorem holds_returnBuffer {sent : SendResult} {b : OutputBuffer}
    (hsent : ntSuccess sent.status → ∃ n, 0 < n ∧ sent.bytesReturned = some n)
    (hk : Holds k (b.kernelBlock ::ₘ s)) :
    Holds (returnBuffer sent b k).2 (blocksOf (returnBuffer sent b k).1.buffer + s) := by
  unfold returnBuffer
  split
  · rename_i hsuccess
    obtain ⟨n, hpos, hreturned⟩ := hsent hsuccess
    rw [if_pos (by rw [hreturned, Option.any_some]; exact decide_eq_true hpos)]
    exact hk
  · rw [blocksOf_none, zero_add]
    exact holds_free hk

/-- **Whatever the driver answers, and whichever allocations fail**: the loop leaves the buffer that
it returns, and nothing else. -/
theorem holds_evaluateLoop (input : List (BitVec 8)) : ∀ (retries size : Nat) {k : AcpiKernel},
    Holds k s →
    Holds (evaluateLoop env input retries size k).2
      (blocksOf (evaluateLoop env input retries size k).1.buffer + s)
  | retries, size, k, hk => by
    unfold evaluateLoop
    cases hblock : k.allocate env (.pool · .evalOutputBuffer) with
    | mk block k₁ =>
      cases block with
      | none =>
        rw [blocksOf_none, zero_add]
        exact holds_of_allocate_none hk hblock
      | some block =>
        have hsent := holds_acpiSendIoctlSynchronously env input size (fun _ => 0)
          (holds_of_allocate_some hk hblock)
        dsimp only
        split
        · have hfreed := holds_free hsent
          cases retries with
          | zero =>
            rw [← zero_add s] at hfreed
            exact hfreed
          | succ retries => exact holds_evaluateLoop input retries _ hfreed
        · exact holds_returnBuffer
            (fun h => (acpiSendIoctlSynchronously_success h).2) hsent

theorem holds_acpiEvaluateMethod (input : List (BitVec 8)) (hk : Holds k s) :
    Holds (acpiEvaluateMethod env input k).2
      (blocksOf (acpiEvaluateMethod env input k).1.buffer + s) :=
  holds_evaluateLoop env input 1 sizeofEvalOutputBuffer hk

/-- The input of a `_DSM` is given back, and the result where nobody asks for it. -/
theorem holds_acpiExecuteDsmFunction (d : DsmFunction) (returns : Bool) (hk : Holds k s) :
    Holds (acpiExecuteDsmFunction env d returns k).2
      (blocksOf (acpiExecuteDsmFunction env d returns k).1.buffer + s) := by
  unfold acpiExecuteDsmFunction
  cases hblock : k.allocate env (.pool · .evalInputBuffer) with
  | mk block k₁ =>
    cases block with
    | none =>
      rw [blocksOf_none, zero_add]
      exact holds_of_allocate_none hk hblock
    | some block =>
      have hk₂ := holds_acpiEvaluateMethod env (dsmInputBytes env (env.address block) d)
        (holds_of_allocate_some hk hblock)
      rw [Multiset.add_cons] at hk₂
      have hfreed := holds_free hk₂
      dsimp only
      split
      · exact hfreed
      · split
        · exact hfreed
        · rename_i hbuffer
          rw [hbuffer] at hfreed
          rw [blocksOf_none, zero_add]
          exact holds_free hfreed

/-- **Success and a buffer come together**, and the buffer is a result. -/
theorem evaluateLoop_success (input : List (BitVec 8)) : ∀ (retries size : Nat) (k : AcpiKernel),
    (ntSuccess (evaluateLoop env input retries size k).1.status
      ↔ (evaluateLoop env input retries size k).1.buffer.isSome)
    ∧ ∀ b ∈ (evaluateLoop env input retries size k).1.buffer, validOutput b.bytes = true
  | retries, size, k => by
    unfold evaluateLoop
    cases k.allocate env (.pool · .evalOutputBuffer) with
    | mk block k₁ =>
      cases block with
      | none =>
        dsimp only
        exact ⟨iff_of_false (by decide) (by decide), by simp⟩
      | some block =>
        dsimp only
        split
        · rename_i hoverflow
          cases retries with
          | zero =>
            dsimp only
            rw [hoverflow]
            exact ⟨iff_of_false (by decide) (by decide), by simp⟩
          | succ retries => exact evaluateLoop_success input retries _ _
        · unfold returnBuffer
          split
          · rename_i hsuccess
            obtain ⟨hvalid, n, hpos, hreturned⟩ := acpiSendIoctlSynchronously_success hsuccess
            rw [if_pos (by rw [hreturned, Option.any_some]; exact decide_eq_true hpos)]
            refine ⟨iff_of_true hsuccess rfl, ?_⟩
            rintro b ⟨⟩
            exact hvalid
          · rename_i hsuccess
            exact ⟨iff_of_false hsuccess Bool.false_ne_true, by simp⟩

theorem acpiExecuteDsmFunction_valid (d : DsmFunction) (returns : Bool) (k : AcpiKernel) :
    ∀ b ∈ (acpiExecuteDsmFunction env d returns k).1.buffer, validOutput b.bytes = true := by
  unfold acpiExecuteDsmFunction
  cases k.allocate env (.pool · .evalInputBuffer) with
  | mk block k₁ =>
    cases block with
    | none => simp
    | some block =>
      have hvalid := (evaluateLoop_success env (dsmInputBytes env (env.address block) d) 1
        sizeofEvalOutputBuffer k₁).2
      dsimp only
      split
      · exact hvalid
      · split
        · exact hvalid
        · simp

/-- A query gives back everything. -/
theorem holds_acpiQueryDsm (query : DsmFunction) (hk : Holds k s) :
    Holds (acpiQueryDsm env query k).2.2 s := by
  have hk₁ := holds_acpiExecuteDsmFunction env query true hk
  unfold acpiQueryDsm
  cases hexecuted : acpiExecuteDsmFunction env query true k with
  | mk evaluated k₁ =>
    rw [hexecuted] at hk₁
    obtain ⟨status, buffer⟩ := evaluated
    cases buffer with
    | none =>
      rw [blocksOf_none, zero_add] at hk₁
      exact hk₁
    | some b =>
      have hfreed : Holds (k₁.free b.kernelBlock) s := holds_free hk₁
      dsimp only
      cases (dsmMask b).result with
      | ok mask => exact hfreed
      | error status => exact hfreed

end Calls

/-! ## 8. Runs of calls

The callers keep buffers over several calls and release them in any order.  The invariant is that
the books agree with what the callers have, and a step adds one buffer or takes one away. -/

/-- What the drivers call, and the release of a buffer that one of them has been given. -/
inductive AcpiCall
  | evaluateMethod (input : List (BitVec 8))
  | queryDsd
  | executeDsmFunction (d : DsmFunction) (returns : Bool)
  | queryDsm (query : DsmFunction)
  | release (i : Nat)

/-- The world, and the buffers that the callers have. -/
structure AcpiCallers where
  kernel : AcpiKernel
  buffers : List OutputBuffer

/-- Nothing has been called. -/
def AcpiCallers.initial : AcpiCallers := ⟨⟨0, [], [], []⟩, []⟩

/-- The buffer of a call goes to the caller. -/
def AcpiCallers.given (w : AcpiCallers) (returned : Evaluated × AcpiKernel) : AcpiCallers :=
  ⟨returned.2, returned.1.buffer.toList ++ w.buffers⟩

def acpiCall (env : AcpiEnv) (w : AcpiCallers) : AcpiCall → Option AcpiCallers
  | .evaluateMethod input => some (w.given (acpiEvaluateMethod env input w.kernel))
  | .queryDsd => some (w.given (acpiQueryDsd env w.kernel))
  | .executeDsmFunction d returns => some (w.given (acpiExecuteDsmFunction env d returns w.kernel))
  | .queryDsm query => some { w with kernel := (acpiQueryDsm env query w.kernel).2.2 }
  | .release i =>
    w.buffers[i]?.map fun b => ⟨w.kernel.free b.kernelBlock, w.buffers.eraseIdx i⟩

/-- **What is held is what the callers have**, and this is results. -/
structure AcpiCallers.Settled (w : AcpiCallers) : Prop where
  holds : Holds w.kernel (w.buffers.map OutputBuffer.kernelBlock : List KernelBlock)
  valid : ∀ b ∈ w.buffers, validOutput b.bytes = true

section Runs

variable {env : AcpiEnv} {w w' : AcpiCallers}

theorem settled_given {returned : Evaluated × AcpiKernel} (hw : w.Settled)
    (hholds : Holds returned.2 (blocksOf returned.1.buffer
      + (w.buffers.map OutputBuffer.kernelBlock : List KernelBlock)))
    (hvalid : ∀ b ∈ returned.1.buffer, validOutput b.bytes = true) : (w.given returned).Settled := by
  refine ⟨?_, ?_⟩
  · unfold AcpiCallers.given
    rwa [List.map_append, ← Multiset.coe_add]
  · intro b hb
    rcases List.mem_append.mp hb with hb | hb
    · exact hvalid b (Option.mem_toList.mp hb)
    · exact hw.valid b hb

theorem settled_release {i : Nat} {b : OutputBuffer} (hw : w.Settled) (hb : w.buffers[i]? = some b) :
    AcpiCallers.Settled ⟨w.kernel.free b.kernelBlock, w.buffers.eraseIdx i⟩ := by
  refine ⟨?_, fun b hb => hw.valid b (List.mem_of_mem_eraseIdx hb)⟩
  have hperm : (w.buffers.map OutputBuffer.kernelBlock).Perm
      (b.kernelBlock :: (w.buffers.eraseIdx i).map OutputBuffer.kernelBlock) := by
    obtain ⟨hi, rfl⟩ := List.getElem?_eq_some_iff.mp hb
    exact ((List.getElem_cons_eraseIdx_perm hi).map OutputBuffer.kernelBlock).symm
  have hholds := hw.holds
  rw [Multiset.coe_eq_coe.mpr hperm] at hholds
  exact holds_free hholds

/-- One call keeps the books. -/
theorem settled_acpiCall {c : AcpiCall} (hw : w.Settled) (h : acpiCall env w c = some w') :
    w'.Settled := by
  cases c with
  | evaluateMethod input =>
    cases h
    exact settled_given hw (holds_acpiEvaluateMethod env input hw.holds)
      (evaluateLoop_success env input 1 sizeofEvalOutputBuffer w.kernel).2
  | queryDsd =>
    cases h
    exact settled_given hw (holds_acpiEvaluateMethod env _ hw.holds)
      (evaluateLoop_success env _ 1 sizeofEvalOutputBuffer w.kernel).2
  | executeDsmFunction d returns =>
    cases h
    exact settled_given hw (holds_acpiExecuteDsmFunction env d returns hw.holds)
      (acpiExecuteDsmFunction_valid env d returns w.kernel)
  | queryDsm query =>
    cases h
    exact ⟨holds_acpiQueryDsm env query hw.holds, hw.valid⟩
  | release i =>
    obtain ⟨b, hb, rfl⟩ := Option.map_eq_some_iff.mp h
    exact settled_release hw hb

/-- **No call leaks, and none frees twice**: in every run of calls, whichever allocations fail and
whatever the ACPI driver answers, what has been taken and not given back are exactly the buffers
that the callers have, and each of these is a result with a signature and an argument.  Each
routine gives back on every path what it takes, but for the buffer that a success returns. -/
theorem acpiCalls_settled (env : AcpiEnv) {w : AcpiCallers}
    (h : Reach (· = AcpiCallers.initial) (acpiCall env) w) : w.Settled := by
  refine Reach.invariant ?_ (fun _ _ _ hw hstep => settled_acpiCall hw hstep) h
  rintro w rfl
  exact ⟨rfl, fun _ hb => absurd hb List.not_mem_nil⟩

/-- `STATUS_OBJECT_NAME_NOT_FOUND`. -/
def statusObjectNameNotFound : NTSTATUS := 0xC0000034

/-- A driver that answers with what the methods return, or with the length that this needs. -/
def acpiDriver (method : Nat → List (BitVec 8) → Option (List (BitVec 8))) : AcpiEnv where
  allocates := fun _ => true
  address := fun n => 0x1000 * (n + 1)
  memory := fun _ => 0
  reply := fun n request =>
    match method n request.input with
    | none => ⟨statusObjectNameNotFound, 0, fun _ => 0, by decide⟩
    | some r =>
      if h : r.length ≤ request.outputBufferLength ∧ r.length < 2 ^ 32 then
        ⟨statusSuccess, r.length, store (fun _ => 0) 0 r, h.2⟩
      else ⟨statusBufferOverflow, 8, store (fun _ => 0) 4 (leBytes 4 r.length), by decide⟩

/-- A result with one integer. -/
def integerResult : List (BitVec 8) :=
  [0x41, 0x65, 0x6F, 0x42, 20, 0, 0, 0, 1, 0, 0, 0, 0, 0, 4, 0, 7, 0, 0, 0]

/-- Two callers get a result each, and the later of the two is released. -/
theorem acpiCalls_settled_run : ∃ w : AcpiCallers, w.buffers.map OutputBuffer.block = [0]
    ∧ w.kernel.entries.length = 11 ∧ w.Settled := by
  obtain ⟨w, hw, htest⟩ := @exists_reach_of_run _ _ (· = AcpiCallers.initial)
    (acpiCall (acpiDriver fun _ _ => some integerResult)) _ rfl
    [.evaluateMethod [0x5F], .queryDsd, .release 0]
    (fun w => w.buffers.map OutputBuffer.block == [0] && w.kernel.entries.length == 11) (by decide)
  rw [Bool.and_eq_true, beq_iff_eq, beq_iff_eq] at htest
  exact ⟨w, htest.1, htest.2, acpiCalls_settled _ hw⟩

end Runs

end WoaRk3576.Acpi
