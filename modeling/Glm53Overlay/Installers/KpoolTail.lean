import Glm53Overlay.Library.StagedInstall
import Glm53Overlay.Library.TextEdit
import Glm53Overlay.Library.TextFile

/-!
The installer of the kpool tail fixes: four files, twelve sites, every file prepared, verified
and compiled before the first is written. Whether Python compiles a text is the parameter
`compiles`; no write fails.
-/
namespace Installers.KpoolTail
open TextFile TextSearch TextEdit StagedInstall

def kpoolDocMark : List Char :=
  verbatim "    stride, so blocks are addressed through ``TAIL_BLOCK_ELEMS`` /" _ rfl

def kpoolDocAnchor : List Char := List.flatten [
  verbatim "    ``tail[block, \x7b0:K, 1:score\x7d, pos % KPOOL, :]``.\n" _ rfl,
  verbatim "    \"\"\"\n" _ rfl]

def kpoolDocPatched : List Char := List.flatten [
  verbatim "    ``tail[block, \x7b0:K, 1:score\x7d, pos % KPOOL, :]``.\n" _ rfl,
  verbatim "\n" _ rfl,
  verbatim "    The tail cache aliases the indexer cache with the indexer's (padded) " _ rfl,
  verbatim "block\n" _ rfl,
  verbatim "    stride, so blocks are addressed through ``TAIL_BLOCK_ELEMS`` /\n" _ rfl,
  verbatim "    ``KPOOL_HEAD`` (``tail.stride(0)`` / ``tail.stride(1)``), never as a " _ rfl,
  verbatim "dense\n" _ rfl,
  verbatim "    ``[num_blocks, 2, KPOOL, HEAD_DIM]`` array.\n" _ rfl,
  verbatim "    \"\"\"\n" _ rfl]

def kpoolSigAnchor : List Char := List.flatten [
  verbatim "    tslot_ptr,\n" _ rfl,
  verbatim "    tail_ptr,\n" _ rfl,
  verbatim "    n_tokens,\n" _ rfl,
  verbatim "    HEAD_DIM: tl.constexpr,\n" _ rfl,
  verbatim "    KPOOL: tl.constexpr,\n" _ rfl,
  verbatim "    BLOCK_D: tl.constexpr,\n" _ rfl,
  verbatim "):\n" _ rfl]

def kpoolSigPatched : List Char := List.flatten [
  verbatim "    tslot_ptr,\n" _ rfl,
  verbatim "    tail_ptr,\n" _ rfl,
  verbatim "    n_tokens,\n" _ rfl,
  verbatim "    TAIL_BLOCK_ELEMS: tl.constexpr,\n" _ rfl,
  verbatim "    KPOOL_HEAD: tl.constexpr,\n" _ rfl,
  verbatim "    HEAD_DIM: tl.constexpr,\n" _ rfl,
  verbatim "    KPOOL: tl.constexpr,\n" _ rfl,
  verbatim "    BLOCK_D: tl.constexpr,\n" _ rfl,
  verbatim "):\n" _ rfl]

def kpoolBodyAnchor : List Char := List.flatten [
  verbatim "    base = (blk * 2 * KPOOL + t % KPOOL) * HEAD_DIM\n" _ rfl,
  verbatim "    k = tl.load(key_ptr + i * HEAD_DIM + offs, mask=m)\n" _ rfl,
  verbatim "    s = tl.load(score_ptr + i * HEAD_DIM + offs, mask=m)\n" _ rfl,
  verbatim "    tl.store(tail_ptr + base + offs, k, mask=m)\n" _ rfl,
  verbatim "    tl.store(tail_ptr + base + KPOOL * HEAD_DIM + offs, s, mask=m)\n" _ rfl]

def kpoolBodyPatched : List Char := List.flatten [
  verbatim "    base = blk * TAIL_BLOCK_ELEMS + (t % KPOOL) * HEAD_DIM\n" _ rfl,
  verbatim "    k = tl.load(key_ptr + i * HEAD_DIM + offs, mask=m)\n" _ rfl,
  verbatim "    s = tl.load(score_ptr + i * HEAD_DIM + offs, mask=m)\n" _ rfl,
  verbatim "    tl.store(tail_ptr + base + offs, k, mask=m)\n" _ rfl,
  verbatim "    tl.store(tail_ptr + base + KPOOL_HEAD + offs, s, mask=m)\n" _ rfl]

def kpoolHostMark : List Char :=
  verbatim "    assert tail_kv_cache.ndim == 4 and tail_kv_cache.shape[1] == 2\n" _ rfl

def kpoolHostAnchor : List Char := List.flatten [
  verbatim "    \"\"\"Seed the paged tail cache from a prefill batch (see the " _ rfl,
  verbatim "kernel).\"\"\"\n" _ rfl,
  verbatim "    assert tail_kv_cache.dtype == torch.bfloat16\n" _ rfl,
  verbatim "    assert key.dtype == torch.bfloat16\n" _ rfl]

def kpoolHostPatched : List Char := List.flatten [
  verbatim "    \"\"\"Seed the paged tail cache from a prefill batch (see the " _ rfl,
  verbatim "kernel).\"\"\"\n" _ rfl,
  verbatim "    assert tail_kv_cache.dtype == torch.bfloat16\n" _ rfl,
  verbatim "    assert tail_kv_cache.ndim == 4 and tail_kv_cache.shape[1] == 2\n" _ rfl,
  verbatim "    assert tail_kv_cache.stride(3) == 1 and tail_kv_cache.stride(2) == " _ rfl,
  verbatim "head_dim\n" _ rfl,
  verbatim "    assert key.dtype == torch.bfloat16\n" _ rfl]

def kpoolCallAnchor : List Char := List.flatten [
  verbatim "    _kpool_tail_seed_kernel[(n,)](\n" _ rfl,
  verbatim "        key,\n" _ rfl,
  verbatim "        gate_score,\n" _ rfl,
  verbatim "        tslot,\n" _ rfl,
  verbatim "        tail_kv_cache,\n" _ rfl,
  verbatim "        n,\n" _ rfl,
  verbatim "        HEAD_DIM=head_dim,\n" _ rfl]

def kpoolCallPatched : List Char := List.flatten [
  verbatim "    _kpool_tail_seed_kernel[(n,)](\n" _ rfl,
  verbatim "        key,\n" _ rfl,
  verbatim "        gate_score,\n" _ rfl,
  verbatim "        tslot,\n" _ rfl,
  verbatim "        tail_kv_cache,\n" _ rfl,
  verbatim "        n,\n" _ rfl,
  verbatim "        TAIL_BLOCK_ELEMS=tail_kv_cache.stride(0),\n" _ rfl,
  verbatim "        KPOOL_HEAD=tail_kv_cache.stride(1),\n" _ rfl,
  verbatim "        HEAD_DIM=head_dim,\n" _ rfl]

def mambaMark : List Char := verbatim "            positions=input_batch.positions,\n" _ rfl

def mambaAnchor : List Char := List.flatten [
  verbatim "            dcp_local_seq_lens=input_batch.dcp_local_seq_lens,\n" _ rfl,
  verbatim "            model_specific_attn_metadata=mamba_attn_metadata,\n" _ rfl]

def mambaPatched : List Char := List.flatten [
  verbatim "            dcp_local_seq_lens=input_batch.dcp_local_seq_lens,\n" _ rfl,
  verbatim "            positions=input_batch.positions,\n" _ rfl,
  verbatim "            model_specific_attn_metadata=mamba_attn_metadata,\n" _ rfl]

def indexerSigMark : List Char := verbatim "    out: torch.Tensor | None = None,\n" _ rfl

def indexerSigAnchor : List Char := List.flatten [
  verbatim "    num_actual_tokens: int,\n" _ rfl,
  verbatim "    num_reqs: int,\n" _ rfl,
  verbatim "    kpool: int,\n" _ rfl,
  verbatim ") -> torch.Tensor:\n" _ rfl]

def indexerSigPatched : List Char := List.flatten [
  verbatim "    num_actual_tokens: int,\n" _ rfl,
  verbatim "    num_reqs: int,\n" _ rfl,
  verbatim "    kpool: int,\n" _ rfl,
  verbatim "    out: torch.Tensor | None = None,\n" _ rfl,
  verbatim ") -> torch.Tensor:\n" _ rfl]

def indexerDocAnchor : List Char := List.flatten [
  verbatim "    Pure torch (no Triton, no device sync): the indexer op consumes the tail\n" _ rfl,
  verbatim "    slot mapping on its eager break, so the returned tensor need not be the\n" _ rfl,
  verbatim "    persistent ``BlockTables`` buffer.\n" _ rfl,
  verbatim "    \"\"\"\n" _ rfl]

def indexerDocPatched : List Char := List.flatten [
  verbatim "    Pure torch (no Triton, no device sync): the indexer op consumes the tail\n" _ rfl,
  verbatim "    slot mapping on its eager break. When ``out`` is supplied the mapping is\n" _ rfl,
  verbatim "    written into that caller-owned buffer, whose address must stay stable\n" _ rfl,
  verbatim "    across CUDA graph replays; otherwise a fresh clone is returned.\n" _ rfl,
  verbatim "    \"\"\"\n" _ rfl]

def indexerOutMark : List Char :=
  verbatim "    # [glm53-kpool-tail-correctness] Write into caller-owned persistent\n" _ rfl

def indexerOutAnchor : List Char := List.flatten [
  verbatim "    out = slot_mapping.clone()\n" _ rfl,
  verbatim "    if num_actual_tokens == 0:\n" _ rfl,
  verbatim "        return out\n" _ rfl]

def indexerOutPatched : List Char := List.flatten [
  verbatim "    # [glm53-kpool-tail-correctness] Write into caller-owned persistent\n" _ rfl,
  verbatim "    # storage. A fresh clone() per step is recorded by CUDA graph capture; " _ rfl,
  verbatim "on\n" _ rfl,
  verbatim "    # replay the tail kernels read a buffer that has since been freed or\n" _ rfl,
  verbatim "    # reused, which dies with Xid 13 Out Of Range Address right after " _ rfl,
  verbatim "capture.\n" _ rfl,
  verbatim "    # The buffer is passed pre-viewed to this tensor's exact shape, so the\n" _ rfl,
  verbatim "    # exported metadata is shape-identical to the clone() it replaces.\n" _ rfl,
  verbatim "    if out is None:\n" _ rfl,
  verbatim "        out = slot_mapping.clone()\n" _ rfl,
  verbatim "    else:\n" _ rfl,
  verbatim "        if out.shape != slot_mapping.shape:\n" _ rfl,
  verbatim "            raise ValueError(\n" _ rfl,
  verbatim "                \"kpool tail slot-mapping buffer shape mismatch \"\n" _ rfl,
  verbatim "                f\"(\x7btuple(out.shape)\x7d != " _ rfl,
  verbatim "\x7btuple(slot_mapping.shape)\x7d)\"\n" _ rfl,
  verbatim "            )\n" _ rfl,
  verbatim "        out.copy_(slot_mapping)\n" _ rfl,
  verbatim "    if num_actual_tokens == 0:\n" _ rfl,
  verbatim "        return out\n" _ rfl]

def indexerInitMark : List Char :=
  verbatim "        self._tail_slot_mapping = torch.empty(\n" _ rfl

def indexerInitAnchor : List Char := List.flatten [
  verbatim "        # No indexer-builder buffers (expanded_block_table / " _ rfl,
  verbatim "scheduler_metadata /\n" _ rfl,
  verbatim "        # compressed_slot_mapping) -- the tail is storage-only and exports " _ rfl,
  verbatim "only\n" _ rfl,
  verbatim "        # slot_mapping, which is rebuilt per step from the group's block " _ rfl,
  verbatim "table.\n" _ rfl,
  verbatim "        super().__init__(kv_cache_spec, layer_names, vllm_config, device)\n" _ rfl]

def indexerInitPatched : List Char := List.flatten [
  verbatim "        # No indexer-builder buffers (expanded_block_table / " _ rfl,
  verbatim "scheduler_metadata /\n" _ rfl,
  verbatim "        # compressed_slot_mapping) -- the tail is storage-only and exports " _ rfl,
  verbatim "only\n" _ rfl,
  verbatim "        # slot_mapping, which is rebuilt per step from the group's block " _ rfl,
  verbatim "table.\n" _ rfl,
  verbatim "        super().__init__(kv_cache_spec, layer_names, vllm_config, device)\n" _ rfl,
  verbatim "        # [glm53-kpool-tail-correctness] Builder-owned persistent output. " _ rfl,
  verbatim "CUDA\n" _ rfl,
  verbatim "        # graph replay retains the slot-mapping address, so returning a " _ rfl,
  verbatim "fresh\n" _ rfl,
  verbatim "        # clone() every step leaves the captured kernels reading freed " _ rfl,
  verbatim "memory.\n" _ rfl,
  verbatim "        self._tail_slot_mapping = torch.empty(\n" _ rfl,
  verbatim "            vllm_config.scheduler_config.max_num_batched_tokens,\n" _ rfl,
  verbatim "            dtype=torch.int64,\n" _ rfl,
  verbatim "            device=device,\n" _ rfl,
  verbatim "        )\n" _ rfl]

def indexerCallMark : List Char :=
  verbatim "            tail_slot_mapping = self._tail_slot_mapping[\n" _ rfl

def indexerCallAnchor : List Char := List.flatten [
  verbatim "            slot_mapping = compute_kpool_tail_slot_mapping(\n" _ rfl,
  verbatim "                slot_mapping,\n" _ rfl,
  verbatim "                common_attn_metadata.block_table_tensor,\n" _ rfl,
  verbatim "                common_attn_metadata.query_start_loc,\n" _ rfl,
  verbatim "                positions,\n" _ rfl,
  verbatim "                common_attn_metadata.num_actual_tokens,\n" _ rfl,
  verbatim "                common_attn_metadata.num_reqs,\n" _ rfl,
  verbatim "                self.kv_cache_spec.block_size,\n" _ rfl,
  verbatim "            )\n" _ rfl]

def indexerCallPatched : List Char := List.flatten [
  verbatim "            # [glm53-kpool-tail-correctness] Builder-owned persistent " _ rfl,
  verbatim "storage,\n" _ rfl,
  verbatim "            # viewed to the batch shape so the exported metadata is " _ rfl,
  verbatim "unchanged.\n" _ rfl,
  verbatim "            # ``view_as`` never copies, so the address captured by CUDA " _ rfl,
  verbatim "graphs\n" _ rfl,
  verbatim "            # is the stable buffer base, not a per-step allocation.\n" _ rfl,
  verbatim "            tail_slot_mapping = self._tail_slot_mapping[\n" _ rfl,
  verbatim "                : slot_mapping.numel()\n" _ rfl,
  verbatim "            ].view_as(slot_mapping)\n" _ rfl,
  verbatim "            slot_mapping = compute_kpool_tail_slot_mapping(\n" _ rfl,
  verbatim "                slot_mapping,\n" _ rfl,
  verbatim "                common_attn_metadata.block_table_tensor,\n" _ rfl,
  verbatim "                common_attn_metadata.query_start_loc,\n" _ rfl,
  verbatim "                positions,\n" _ rfl,
  verbatim "                common_attn_metadata.num_actual_tokens,\n" _ rfl,
  verbatim "                common_attn_metadata.num_reqs,\n" _ rfl,
  verbatim "                self.kv_cache_spec.block_size,\n" _ rfl,
  verbatim "                out=tail_slot_mapping,\n" _ rfl,
  verbatim "            )\n" _ rfl]

def blocktableMark : List Char :=
  verbatim "        in_range = block_indices < block_table_stride\n" _ rfl

def blocktableAnchor : List Char := List.flatten [
  verbatim "        block_indices = positions // (block_size * CP_SIZE)\n" _ rfl,
  verbatim "        block_offsets = positions % (block_size * CP_SIZE)\n" _ rfl,
  verbatim "        block_numbers = tl.load(\n" _ rfl,
  verbatim "            block_table_ptr + req_state_idx * block_table_stride + " _ rfl,
  verbatim "block_indices\n" _ rfl,
  verbatim "        )\n" _ rfl,
  verbatim "\n" _ rfl,
  verbatim "        if CP_SIZE == 1:\n" _ rfl,
  verbatim "            # Common case: Context parallelism is not used.\n" _ rfl,
  verbatim "            slot_ids = block_numbers * block_size + block_offsets\n" _ rfl,
  verbatim "        else:\n" _ rfl,
  verbatim "            # Context parallelism is used.\n" _ rfl,
  verbatim "            is_local = block_offsets // CP_INTERLEAVE % CP_SIZE == cp_rank\n" _ rfl,
  verbatim "            rounds = block_offsets // (CP_INTERLEAVE * CP_SIZE)\n" _ rfl,
  verbatim "            remainder = block_offsets % CP_INTERLEAVE\n" _ rfl,
  verbatim "            local_offsets = rounds * CP_INTERLEAVE + remainder\n" _ rfl,
  verbatim "            slot_ids = block_numbers * block_size + local_offsets\n" _ rfl,
  verbatim "            slot_ids = tl.where(is_local, slot_ids, PAD_ID)\n" _ rfl]

def blocktablePatched : List Char := List.flatten [
  verbatim "        block_indices = positions // (block_size * CP_SIZE)\n" _ rfl,
  verbatim "        block_offsets = positions % (block_size * CP_SIZE)\n" _ rfl,
  verbatim "        # [glm53-kpool-tail-correctness] The kpool tail group's block-table " _ rfl,
  verbatim "row\n" _ rfl,
  verbatim "        # is one block wide (padded to the block-table alignment), so its " _ rfl,
  verbatim "column\n" _ rfl,
  verbatim "        # index runs off the end of the row -- and of the whole allocation " _ rfl,
  verbatim "for\n" _ rfl,
  verbatim "        # the last request -- for every pos >= block_size * alignment. Bound " _ rfl,
  verbatim "the\n" _ rfl,
  verbatim "        # column index; for any group whose row spans the sequence this is\n" _ rfl,
  verbatim "        # identity, and the tail group's own builder supplies the real " _ rfl,
  verbatim "mapping.\n" _ rfl,
  verbatim "        in_range = block_indices < block_table_stride\n" _ rfl,
  verbatim "        block_numbers = tl.load(\n" _ rfl,
  verbatim "            block_table_ptr + req_state_idx * block_table_stride + " _ rfl,
  verbatim "block_indices,\n" _ rfl,
  verbatim "            mask=in_range,\n" _ rfl,
  verbatim "            other=0,\n" _ rfl,
  verbatim "        )\n" _ rfl,
  verbatim "\n" _ rfl,
  verbatim "        if CP_SIZE == 1:\n" _ rfl,
  verbatim "            # Common case: Context parallelism is not used.\n" _ rfl,
  verbatim "            slot_ids = block_numbers * block_size + block_offsets\n" _ rfl,
  verbatim "            slot_ids = tl.where(in_range, slot_ids, PAD_ID)\n" _ rfl,
  verbatim "        else:\n" _ rfl,
  verbatim "            # Context parallelism is used.\n" _ rfl,
  verbatim "            is_local = block_offsets // CP_INTERLEAVE % CP_SIZE == cp_rank\n" _ rfl,
  verbatim "            rounds = block_offsets // (CP_INTERLEAVE * CP_SIZE)\n" _ rfl,
  verbatim "            remainder = block_offsets % CP_INTERLEAVE\n" _ rfl,
  verbatim "            local_offsets = rounds * CP_INTERLEAVE + remainder\n" _ rfl,
  verbatim "            slot_ids = block_numbers * block_size + local_offsets\n" _ rfl,
  verbatim "            slot_ids = tl.where(is_local & in_range, slot_ids, PAD_ID)\n" _ rfl]

inductive Label where
  | kpool
  | mamba
  | indexer
  | blocktable
  deriving DecidableEq

structure Site where
  name : String
  mark : Option (List Char)
  anchor : List Char
  patched : List Char

def sites : Label → List Site
  | .kpool => [
    ⟨"seed docstring", some kpoolDocMark, kpoolDocAnchor, kpoolDocPatched⟩,
    ⟨"seed constexprs", none, kpoolSigAnchor, kpoolSigPatched⟩,
    ⟨"seed addressing", none, kpoolBodyAnchor, kpoolBodyPatched⟩,
    ⟨"seed layout asserts", some kpoolHostMark, kpoolHostAnchor, kpoolHostPatched⟩,
    ⟨"seed stride args", none, kpoolCallAnchor, kpoolCallPatched⟩]
  | .mamba => [
    ⟨"forward positions", some mambaMark, mambaAnchor, mambaPatched⟩]
  | .indexer => [
    ⟨"mapping out param", some indexerSigMark, indexerSigAnchor, indexerSigPatched⟩,
    ⟨"mapping docstring", none, indexerDocAnchor, indexerDocPatched⟩,
    ⟨"in-place write", some indexerOutMark, indexerOutAnchor, indexerOutPatched⟩,
    ⟨"persistent buffer", some indexerInitMark, indexerInitAnchor, indexerInitPatched⟩,
    ⟨"pass out buffer", some indexerCallMark, indexerCallAnchor, indexerCallPatched⟩]
  | .blocktable => [
    ⟨"bound column index", some blocktableMark, blocktableAnchor, blocktablePatched⟩]

def targets : List Label := [.kpool, .mamba, .indexer, .blocktable]

/-- Every site is present in its fully patched form. -/
def verifiedState (text : List Char) (sites : List Site) : Bool :=
  sites.all fun s => count s.patched text == 1 &&
    count s.anchor text == count s.anchor s.patched && s.mark.all fun m => count m text == 1

def countMarks (text : List Char) (sites : List Site) : Nat :=
  (sites.filterMap Site.mark).foldr (fun m total => count m text + total) 0

inductive InstallError where
  | missing (label : Label)
  | undecodable (label : Label)
  | partialPatch (label : Label) (marks sites : Nat)
  | drifted (label : Label) (name : String) (found : Nat)
  | unverified (label : Label)
  | uncompilable (label : Label)
  deriving DecidableEq

def applySites (label : Label) : List Site → List Char → Except InstallError (List Char)
  | [], out => .ok out
  | s :: rest, out =>
    if count s.anchor out ≠ 1 then .error (.drifted label s.name (count s.anchor out))
    else applySites label rest (replaceFirst s.anchor s.patched out)

def prepare (text : List Char) (sites : List Site) (label : Label) :
    Except InstallError (List Char) :=
  if countMarks text sites ≠ 0 then
    if verifiedState text sites then .ok text
    else .error (.partialPatch label (countMarks text sites) sites.length)
  else if verifiedState text sites then .ok text
  else
    match applySites label sites text with
    | .error e => .error e
    | .ok out => if verifiedState out sites then .ok out else .error (.unverified label)

/-- What the first loop of `main` does with a target; `none` is a path that is no file. -/
def check (compiles : List Char → Bool) (label : Label) (file : Option File) :
    Except InstallError (Option (Option File)) :=
  match file with
  | none => .error (.missing label)
  | some f =>
    match f.read with
    | none => .error (.undecodable label)
    | some original =>
      match prepare original (sites label) label with
      | .error e => .error e
      | .ok patched =>
        if !compiles patched then .error (.uncompilable label)
        else if patched = original then .ok none else .ok (some (some (.text patched)))

abbrev Files := Label → Option File

def main (compiles : List Char → Bool) (preflightOnly : Bool) (files : Files) :
    Except InstallError Unit × Files :=
  if preflightOnly then ((stage (check compiles) files targets).map fun _ => (), files)
  else install (check compiles) targets files

def Complete (compiles : List Char → Bool) (label : Label) (file : Option File) : Prop :=
  ∃ f text, file = some f ∧ f.read = some text ∧ verifiedState text (sites label) = true ∧
    compiles text = true

def SomeButNotAll (label : Label) (file : Option File) : Prop :=
  ∃ f text, file = some f ∧ f.read = some text ∧
    (∃ s ∈ sites label, s.patched <:+: text ∨ ∃ m ∈ s.mark, m <:+: text) ∧
    ∃ s ∈ sites label, ¬ s.patched <:+: text ∨ ∃ m ∈ s.mark, ¬ m <:+: text

theorem texts_nonempty : ∀ label, ∀ s ∈ sites label, s.patched ≠ [] ∧ ∀ m ∈ s.mark, m ≠ [] := by
  have checked : ∀ label, (sites label).all (fun s => !s.patched.isEmpty &&
      s.mark.all fun m => !m.isEmpty) = true := by
    intro label
    cases label <;> decide +kernel
  intro label s member
  have own := List.all_eq_true.mp (checked label) s member
  rw [Bool.and_eq_true, Option.all_eq_true] at own
  refine ⟨by simpa using own.1, ?_⟩
  intro m marked
  simpa using own.2 m marked

theorem marks_in_snippets : ∀ label, ∀ s ∈ sites label, ∀ m ∈ s.mark, m <:+: s.patched := by
  have checked : ∀ label, (sites label).all (fun s =>
      s.mark.all fun m => (find m s.patched).isSome) = true := by
    intro label
    cases label <;> decide +kernel
  intro label s member m marked
  have own := List.all_eq_true.mp (checked label) s member
  rw [Option.mem_def.mp marked] at own
  exact (find_isSome_iff m s.patched).mp (by simpa using own)

theorem unmarked_clear : ∀ label, ∀ s ∈ sites label, s.mark = none → ∀ r ∈ sites label,
    Clear false s.patched [] r.anchor [] := by
  have checked : ∀ label, (sites label).all (fun s => s.mark.isSome ||
      (sites label).all fun r => clear false s.patched [] r.anchor []) = true := by
    intro label
    cases label <;> decide +kernel
  intro label s member unmarked r other
  have own := List.all_eq_true.mp (checked label) s member
  rw [unmarked, Option.isSome_none, Bool.false_or] at own
  exact clear_spec (List.all_eq_true.mp own r other)

theorem some_marked (label : Label) : ∃ s ∈ sites label, ∃ m, s.mark = some m := by
  cases label with
  | kpool => exact ⟨_, List.mem_cons_self, _, rfl⟩
  | mamba => exact ⟨_, List.mem_cons_self, _, rfl⟩
  | indexer => exact ⟨_, List.mem_cons_self, _, rfl⟩
  | blocktable => exact ⟨_, List.mem_cons_self, _, rfl⟩

theorem countMarks_pos {text : List Char} {sites : List Site} {s : Site} {m : List Char}
    (member : s ∈ sites) (marked : s.mark = some m) (nonempty : m ≠ []) (occurs : m <:+: text) :
    countMarks text sites ≠ 0 := by
  induction sites with
  | nil => cases member
  | cons r rest ih =>
    rcases List.mem_cons.mp member with rfl | later
    · have positive := (count_pos_iff nonempty text).mpr occurs
      unfold countMarks
      rw [List.filterMap_cons_some marked, List.foldr_cons]
      omega
    · have rests := ih later
      unfold countMarks at rests ⊢
      cases other : r.mark with
      | none =>
        rw [List.filterMap_cons_none other]
        exact rests
      | some m' =>
        rw [List.filterMap_cons_some other, List.foldr_cons]
        omega

theorem verifiedState_spec {text : List Char} {label : Label}
    (verified : verifiedState text (sites label) = true) : ∀ s ∈ sites label,
      count s.patched text = 1 ∧ ∀ m ∈ s.mark, count m text = 1 := by
  intro s member
  have own := List.all_eq_true.mp verified s member
  simp only [Bool.and_eq_true, beq_iff_eq] at own
  refine ⟨own.1.1, ?_⟩
  intro m marked
  have counted := own.2
  rw [Option.mem_def.mp marked] at counted
  simpa using counted

theorem marks_of_verified {text : List Char} {label : Label}
    (verified : verifiedState text (sites label) = true) :
    countMarks text (sites label) ≠ 0 := by
  obtain ⟨s, member, m, marked⟩ := some_marked label
  have nonempty := (texts_nonempty label s member).2 m marked
  have counted := (verifiedState_spec verified s member).2 m marked
  exact countMarks_pos member marked nonempty
    ((count_pos_iff nonempty text).mp (by rw [counted]; exact Nat.one_pos))

theorem prepare_of_verified {text : List Char} {label : Label}
    (verified : verifiedState text (sites label) = true) :
    prepare text (sites label) label = .ok text := by
  rw [prepare, if_pos (marks_of_verified verified), if_pos verified]

theorem prepare_verified {text out : List Char} {label : Label}
    (prepared : prepare text (sites label) label = .ok out) :
    verifiedState out (sites label) = true := by
  unfold prepare at prepared
  split at prepared
  · split at prepared
    · rename_i verified
      cases prepared
      exact verified
    · cases prepared
  · split at prepared
    · rename_i verified
      cases prepared
      exact verified
    · split at prepared
      · cases prepared
      · split at prepared
        · rename_i verified
          cases prepared
          exact verified
        · cases prepared

/-- What the edits do not contain stays out of the text, so a written file reads as it was
    written. -/
theorem applySites_no_return {label : Label} {all : List Site}
    (clean : ∀ s ∈ all, '\r' ∉ s.patched) : ∀ {text out : List Char}, '\r' ∉ text →
      applySites label all text = .ok out → '\r' ∉ out := by
  induction all with
  | nil =>
    intro text out plain applied
    cases applied
    exact plain
  | cons s rest ih =>
    intro text out plain applied
    rw [applySites] at applied
    split at applied
    · cases applied
    · rename_i counted
      obtain ⟨u, v, split, replaced⟩ := replaceFirst_of_count s.patched (not_not.mp counted)
      rw [split] at plain
      refine ih (fun r member => clean r (List.mem_cons_of_mem _ member)) ?_ applied
      rw [replaced]
      have own := clean s List.mem_cons_self
      simp only [List.mem_append, not_or] at plain ⊢
      exact ⟨⟨plain.1.1, own⟩, plain.2⟩

theorem snippets_no_return : ∀ label, ∀ s ∈ sites label, '\r' ∉ s.patched := by
  have checked : ∀ label, (sites label).all (fun s => !s.patched.contains '\r') = true := by
    intro label
    cases label <;> decide +kernel
  intro label s member
  have own := List.all_eq_true.mp (checked label) s member
  simpa using own

theorem prepare_no_return {text out : List Char} {label : Label} (plain : '\r' ∉ text)
    (prepared : prepare text (sites label) label = .ok out) : '\r' ∉ out := by
  unfold prepare at prepared
  split at prepared
  · split at prepared <;> cases prepared
    exact plain
  · split at prepared
    · cases prepared
      exact plain
    · split at prepared
      · cases prepared
      · rename_i applied
        split at prepared <;> cases prepared
        exact applySites_no_return (snippets_no_return label) plain applied

theorem complete_of_check {compiles : List Char → Bool} {label : Label} {file : Option File}
    (checked : check compiles label file = .ok none) : Complete compiles label file := by
  unfold check at checked
  split at checked
  · cases checked
  split at checked
  · cases checked
  rename_i text read
  split at checked
  · cases checked
  rename_i patched prepared
  split at checked
  · cases checked
  · rename_i compiled
    split at checked
    · rename_i same
      subst same
      refine ⟨_, _, rfl, read, prepare_verified prepared, ?_⟩
      simpa using compiled
    · cases checked

theorem check_settles (compiles : List Char → Bool) (label : Label) (file written : Option File)
    (checked : check compiles label file = .ok (some written)) :
    check compiles label written = .ok none := by
  unfold check at checked
  split at checked
  · cases checked
  split at checked
  · cases checked
  rename_i text read
  split at checked
  · cases checked
  rename_i patched prepared
  split at checked
  · cases checked
  rename_i compiled
  split at checked
  · cases checked
  cases checked
  have plain := prepare_no_return (File.no_return_of_read read) prepared
  have again : (File.text patched).read = some patched := by
    rw [File.read, translate_of_no_return _ plain]
  have ready : check compiles label (some (.text patched)) =
      if !compiles patched then .error (.uncompilable label)
      else if patched = patched then .ok none else .ok (some (some (.text patched))) := by
    unfold check
    simp only [again, prepare_of_verified (prepare_verified prepared)]
  rw [ready, if_neg compiled, if_pos rfl]

theorem twice_after {label : Label} {p : List Char} (nonempty : p ≠ []) {all : List Site}
    (beside : ∀ r ∈ all, Clear false p [] r.anchor []) : ∀ {text out : List Char},
      (Twice p text ∨ p <:+: text ∧ ∃ s ∈ all, s.patched = p) →
      applySites label all text = .ok out → Twice p out := by
  induction all with
  | nil =>
    intro text out start applied
    cases applied
    rcases start with twice | ⟨_, s, none, _⟩
    · exact twice
    · cases none
  | cons r rest ih =>
    intro text out start applied
    rw [applySites] at applied
    split at applied
    · cases applied
    · rename_i counted
      obtain ⟨u, v, split, replaced⟩ := replaceFirst_of_count r.patched (not_not.mp counted)
      have clearHere := beside r List.mem_cons_self
      refine ih (fun s member => beside s (List.mem_cons_of_mem _ member)) ?_ applied
      rw [replaced]
      rw [split] at start
      have window : ∀ x : List Char, u ++ x ++ v = u ++ ([] ++ x ++ []) ++ v := by
        intro x
        simp
      rcases start with twice | ⟨present, s, member, same⟩
      · rw [window] at twice ⊢
        exact Or.inl (twice_edit clearHere nonempty twice)
      · rcases List.mem_cons.mp member with rfl | later
        · rw [same]
          exact Or.inl (twice_insert clearHere nonempty present)
        · rw [window] at present ⊢
          exact Or.inr ⟨present_edit clearHere present, s, later, same⟩

theorem prepare_refuses {text : List Char} {label : Label}
    (some' : ∃ s ∈ sites label, s.patched <:+: text ∨ ∃ m ∈ s.mark, m <:+: text)
    (unverified : verifiedState text (sites label) = false) :
    ∃ e, prepare text (sites label) label = .error e := by
  cases prepared : prepare text (sites label) label with
  | error e => exact ⟨e, rfl⟩
  | ok out =>
    exfalso
    have verified := prepare_verified prepared
    unfold prepare at prepared
    rw [unverified] at prepared
    split at prepared
    · cases prepared
    · rename_i marks
      have none : countMarks text (sites label) = 0 := not_not.mp marks
      obtain ⟨s, member, occurs⟩ := some'
      have absentMark : ∀ m, s.mark = some m → ¬ m <:+: text := fun m marked found =>
        countMarks_pos member marked ((texts_nonempty label s member).2 m marked) found none
      have present : s.patched <:+: text := by
        rcases occurs with here | ⟨m, marked, found⟩
        · exact here
        · exact absurd found (absentMark m marked)
      have unmarked : s.mark = Option.none := by
        cases marked : s.mark with
        | none => rfl
        | some m =>
          exact absurd ((marks_in_snippets label s member m marked).trans present)
            (absentMark m marked)
      simp only [Bool.false_eq_true, ↓reduceIte] at prepared
      split at prepared
      · cases prepared
      · rename_i applied
        split at prepared
        · cases prepared
          have nonempty := (texts_nonempty label s member).1
          have twice := twice_after nonempty (unmarked_clear label s member unmarked)
            (Or.inr ⟨present, s, member, rfl⟩) applied
          have counted := (verifiedState_spec verified s member).1
          have two := two_le_count_of_twice nonempty twice
          omega
        · cases prepared

theorem check_refuses (compiles : List Char → Bool) {label : Label} {file : Option File}
    (mixed : SomeButNotAll label file) : ∃ e, check compiles label file = .error e := by
  obtain ⟨f, text, rfl, read, some', s, member, lacks⟩ := mixed
  have unverified : verifiedState text (sites label) = false := by
    rw [Bool.eq_false_iff]
    intro verified
    obtain ⟨patched, marks⟩ := verifiedState_spec verified s member
    obtain ⟨nonempty, marksNonempty⟩ := texts_nonempty label s member
    rcases lacks with absent | ⟨m, marked, absent⟩
    · rw [(count_eq_zero_iff nonempty text).mpr absent] at patched
      cases patched
    · have counted := marks m marked
      rw [(count_eq_zero_iff (marksNonempty m marked) text).mpr absent] at counted
      cases counted
  obtain ⟨e, refused⟩ := prepare_refuses some' unverified
  refine ⟨e, ?_⟩
  unfold check
  simp only [read, refused]

end Installers.KpoolTail
