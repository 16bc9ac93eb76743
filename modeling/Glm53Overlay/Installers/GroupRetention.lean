import Glm53Overlay.Installers.TextPatch

/-!
The patcher that gives every cache group its own retention interval. It shares its base helper
with the hybrid patcher and inserts it only where that one has not; a marked file is left alone,
and what is written is neither verified nor compiled.
-/
namespace Installers.GroupRetention
open TextFile TextSearch TextPatch

def mark : List Char := verbatim "# [glm53-apc-per-group]" _ rfl

def importOld : List Char := List.flatten [
  verbatim "from abc import ABC, abstractmethod\n" _ rfl,
  verbatim "from collections.abc import Sequence\n" _ rfl]

def importNew : List Char := List.flatten [
  verbatim "import os  # [glm53-apc-per-group]\n" _ rfl,
  verbatim "from abc import ABC, abstractmethod\n" _ rfl,
  verbatim "from collections.abc import Sequence\n" _ rfl]

def baseHelper : List Char := List.flatten [
  verbatim "\n" _ rfl,
  verbatim "def _glm53_inner_kv_spec(spec):\n" _ rfl,
  verbatim "    specs = getattr(spec, \"kv_cache_specs\", None)\n" _ rfl,
  verbatim "    if isinstance(specs, dict) and specs:\n" _ rfl,
  verbatim "        return next(iter(specs.values()))\n" _ rfl,
  verbatim "    return spec\n" _ rfl,
  verbatim "\n" _ rfl,
  verbatim "\n" _ rfl,
  verbatim "def _glm53_is_draft_swa_spec(spec) -> bool:\n" _ rfl,
  verbatim "    \"\"\"DFlash2 drafter: exact SlidingWindowSpec, not KpoolTailSpec.\"\"\"\n" _ rfl,
  verbatim "    return type(_glm53_inner_kv_spec(spec)).__name__ == " _ rfl,
  verbatim "\"SlidingWindowSpec\"\n" _ rfl,
  verbatim "\n" _ rfl,
  verbatim "\n" _ rfl]

def retentionHelper : List Char := List.flatten [
  verbatim "\n" _ rfl,
  verbatim "def _glm53_swa_retention_env(  # [glm53-apc-per-group]\n" _ rfl,
  verbatim "    scheduler_block_size,\n" _ rfl,
  verbatim "    max_interval=1_000_000,\n" _ rfl,
  verbatim "):\n" _ rfl,
  verbatim "    \"\"\"Parse + validate VLLM_PREFIX_CACHE_RETENTION_INTERVAL_SWA.\n" _ rfl,
  verbatim "\n" _ rfl,
  verbatim "    Unset/empty -> None (automatic rule). Otherwise the raw value is " _ rfl,
  verbatim "validated\n" _ rfl,
  verbatim "    *unconditionally* — before any group is inspected — so a typo is a boot\n" _ rfl,
  verbatim "    failure rather than a silent no-op on a model without a drafter group:\n" _ rfl,
  verbatim "    integer, non-negative, a multiple of ``scheduler_block_size`` (the base\n" _ rfl,
  verbatim "    cache-hit granularity, so a retained tail lands on a real hit boundary),\n" _ rfl,
  verbatim "    and <= ``max_interval``.\n" _ rfl,
  verbatim "    \"\"\"\n" _ rfl,
  verbatim "    key = \"VLLM_PREFIX_CACHE_RETENTION_INTERVAL_SWA\"\n" _ rfl,
  verbatim "    raw = os.environ.get(key, \"\")\n" _ rfl,
  verbatim "    if raw.strip() == \"\":\n" _ rfl,
  verbatim "        return None\n" _ rfl,
  verbatim "    try:\n" _ rfl,
  verbatim "        value = int(raw.strip())\n" _ rfl,
  verbatim "    except ValueError:\n" _ rfl,
  verbatim "        raise ValueError(\n" _ rfl,
  verbatim "            f\"\x7bkey\x7d must be an integer (got \x7braw!r\x7d); \"\n" _ rfl,
  verbatim "            \"leave it unset for the automatic rule.\"\n" _ rfl,
  verbatim "        ) from None\n" _ rfl,
  verbatim "    if value < 0:\n" _ rfl,
  verbatim "        raise ValueError(f\"\x7bkey\x7d (\x7bvalue\x7d) must be " _ rfl,
  verbatim "non-negative.\")\n" _ rfl,
  verbatim "    if scheduler_block_size and value % scheduler_block_size != 0:\n" _ rfl,
  verbatim "        raise ValueError(\n" _ rfl,
  verbatim "            f\"\x7bkey\x7d (\x7bvalue\x7d) must be a multiple of " _ rfl,
  verbatim "scheduler_block_size \"\n" _ rfl,
  verbatim "            f\"(\x7bscheduler_block_size\x7d); 0 means reachable boundaries " _ rfl,
  verbatim "only.\"\n" _ rfl,
  verbatim "        )\n" _ rfl,
  verbatim "    if value > max_interval:\n" _ rfl,
  verbatim "        raise ValueError(\n" _ rfl,
  verbatim "            f\"\x7bkey\x7d (\x7bvalue\x7d) exceeds the maximum supported " _ rfl,
  verbatim "retention \"\n" _ rfl,
  verbatim "            f\"interval (\x7bmax_interval\x7d).\"\n" _ rfl,
  verbatim "        )\n" _ rfl,
  verbatim "    return value\n" _ rfl,
  verbatim "\n" _ rfl,
  verbatim "\n" _ rfl,
  verbatim "def _glm53_min_exempt_group_ids(  # [glm53-apc-per-group]\n" _ rfl,
  verbatim "    kv_cache_groups,\n" _ rfl,
  verbatim "    eagle_group_ids,\n" _ rfl,
  verbatim "):\n" _ rfl,
  verbatim "    \"\"\"Group ids the coordinator itself treats as EAGLE-exempt drafter " _ rfl,
  verbatim "groups.\n" _ rfl,
  verbatim "\n" _ rfl,
  verbatim "    Derived from coordinator state, never from a class name alone. A group\n" _ rfl,
  verbatim "    qualifies only when\n" _ rfl,
  verbatim "\n" _ rfl,
  verbatim "      (a) its inner spec is an *exact* ``SlidingWindowSpec`` (the DFlash2\n" _ rfl,
  verbatim "          drafter; ``KpoolTailSpec`` subclasses it and never prefix-caches), " _ rfl,
  verbatim "and\n" _ rfl,
  verbatim "      (b) ``eagle_group_ids`` is *exactly* that set of drafter groups.\n" _ rfl,
  verbatim "\n" _ rfl,
  verbatim "    (b) is the state overlay/patch_hybrid_prefix_hit.py establishes: it " _ rfl,
  verbatim "narrows\n" _ rfl,
  verbatim "    ``eagle_group_ids`` from the upstream all-groups fallback down to the " _ rfl,
  verbatim "drafter\n" _ rfl,
  verbatim "    SWA groups and, driven by the same discriminator, makes those groups skip " _ rfl,
  verbatim "the\n" _ rfl,
  verbatim "    hybrid hit ``min()``. When ``eagle_group_ids`` is the undiscriminating\n" _ rfl,
  verbatim "    all-groups fallback (or is annotated over some other group), the " _ rfl,
  verbatim "equality\n" _ rfl,
  verbatim "    fails and this returns the empty set — so an explicit SWA override fails\n" _ rfl,
  verbatim "    closed instead of starving a group that still shortens the hybrid hit.\n" _ rfl,
  verbatim "    \"\"\"\n" _ rfl,
  verbatim "    eagle = set(eagle_group_ids)\n" _ rfl,
  verbatim "    swa = \x7b\n" _ rfl,
  verbatim "        i\n" _ rfl,
  verbatim "        for i, g in enumerate(kv_cache_groups)\n" _ rfl,
  verbatim "        if _glm53_is_draft_swa_spec(g.kv_cache_spec)\n" _ rfl,
  verbatim "    \x7d\n" _ rfl,
  verbatim "    if not swa or eagle != swa:\n" _ rfl,
  verbatim "        return frozenset()\n" _ rfl,
  verbatim "    return frozenset(swa)\n" _ rfl,
  verbatim "\n" _ rfl,
  verbatim "\n" _ rfl,
  verbatim "def _glm53_retention_for_group(  # [glm53-apc-per-group]\n" _ rfl,
  verbatim "    spec,\n" _ rfl,
  verbatim "    global_interval,\n" _ rfl,
  verbatim "    swa_interval,\n" _ rfl,
  verbatim "    alignment_tokens,\n" _ rfl,
  verbatim "    is_min_exempt,\n" _ rfl,
  verbatim "):\n" _ rfl,
  verbatim "    \"\"\"Prefix-cache retention interval for one KV cache group.\n" _ rfl,
  verbatim "\n" _ rfl,
  verbatim "    Only a group that is both an exact ``SlidingWindowSpec`` **and** EAGLE/\n" _ rfl,
  verbatim "    min-exempt per ``_glm53_min_exempt_group_ids`` diverges from the global\n" _ rfl,
  verbatim "    value. Both the explicit and the automatic path require min-exemption: a\n" _ rfl,
  verbatim "    sliding-window group that still participates in the hybrid hit ``min()``\n" _ rfl,
  verbatim "    must keep the global interval, because sparsifying it would shorten " _ rfl,
  verbatim "every\n" _ rfl,
  verbatim "    hit.\n" _ rfl,
  verbatim "\n" _ rfl,
  verbatim "    ``swa_interval is not None``  -> use it verbatim for min-exempt drafter\n" _ rfl,
  verbatim "        groups (operator override; the caller has already validated it and " _ rfl,
  verbatim "has\n" _ rfl,
  verbatim "        already refused the setting outright if no group is min-exempt).\n" _ rfl,
  verbatim "    ``swa_interval is None``      -> automatic rule: a *hit-inert* " _ rfl,
  verbatim "sliding-window\n" _ rfl,
  verbatim "        group -- window smaller than the cache-hit alignment (so its cached " _ rfl,
  verbatim "tail\n" _ rfl,
  verbatim "        can only ever be consulted at an alignment boundary) AND " _ rfl,
  verbatim "EAGLE/min-exempt\n" _ rfl,
  verbatim "        (so its hit length is discarded) -- costs\n" _ rfl,
  verbatim "        ``need = cdiv(window - 1, block) + 1`` ids per boundary (>= 2 for " _ rfl,
  verbatim "any\n" _ rfl,
  verbatim "        EAGLE group) while contributing nothing to hit length, so keep only " _ rfl,
  verbatim "the\n" _ rfl,
  verbatim "        reachable boundaries (0). Any other group falls through to the " _ rfl,
  verbatim "global\n" _ rfl,
  verbatim "        value, including a genuine SWA model whose window spans the " _ rfl,
  verbatim "alignment.\n" _ rfl,
  verbatim "    \"\"\"\n" _ rfl,
  verbatim "    if not _glm53_is_draft_swa_spec(spec) or not is_min_exempt:\n" _ rfl,
  verbatim "        return global_interval\n" _ rfl,
  verbatim "    if swa_interval is not None:\n" _ rfl,
  verbatim "        return swa_interval\n" _ rfl,
  verbatim "    inner = _glm53_inner_kv_spec(spec)\n" _ rfl,
  verbatim "    window = getattr(inner, \"sliding_window\", None)\n" _ rfl,
  verbatim "    block = getattr(inner, \"block_size\", None)\n" _ rfl,
  verbatim "    if not window or not block or not alignment_tokens:\n" _ rfl,
  verbatim "        return global_interval\n" _ rfl,
  verbatim "    if window >= alignment_tokens:\n" _ rfl,
  verbatim "        return global_interval\n" _ rfl,
  verbatim "    return 0\n" _ rfl,
  verbatim "\n" _ rfl,
  verbatim "\n" _ rfl,
  verbatim "def _glm53_resolve_retention_by_group(  # [glm53-apc-per-group]\n" _ rfl,
  verbatim "    kv_cache_groups,\n" _ rfl,
  verbatim "    eagle_group_ids,\n" _ rfl,
  verbatim "    global_interval,\n" _ rfl,
  verbatim "    swa_interval,\n" _ rfl,
  verbatim "    alignment_tokens,\n" _ rfl,
  verbatim "):\n" _ rfl,
  verbatim "    \"\"\"Resolve the per-group retention vector, failing closed on a " _ rfl,
  verbatim "misdirected\n" _ rfl,
  verbatim "    SWA override.\n" _ rfl,
  verbatim "\n" _ rfl,
  verbatim "    An explicit ``VLLM_PREFIX_CACHE_RETENTION_INTERVAL_SWA`` is only " _ rfl,
  verbatim "meaningful\n" _ rfl,
  verbatim "    for the EAGLE-exempt drafter group. If the coordinator has not singled " _ rfl,
  verbatim "such a\n" _ rfl,
  verbatim "    group out, refuse to boot rather than ignore the setting (which would " _ rfl,
  verbatim "look\n" _ rfl,
  verbatim "    like the knob worked) or apply it by class name (which would sparsify a " _ rfl,
  verbatim "group\n" _ rfl,
  verbatim "    that is still inside the hit ``min()``).\n" _ rfl,
  verbatim "    \"\"\"\n" _ rfl,
  verbatim "    min_exempt = _glm53_min_exempt_group_ids(kv_cache_groups, " _ rfl,
  verbatim "eagle_group_ids)\n" _ rfl,
  verbatim "    if swa_interval is not None and not min_exempt:\n" _ rfl,
  verbatim "        raise ValueError(\n" _ rfl,
  verbatim "            \"VLLM_PREFIX_CACHE_RETENTION_INTERVAL_SWA is set \"\n" _ rfl,
  verbatim "            f\"(\x7bswa_interval\x7d) but this coordinator has no " _ rfl,
  verbatim "EAGLE-exempt drafter \"\n" _ rfl,
  verbatim "            \"sliding-window group: eagle_group_ids=\"\n" _ rfl,
  verbatim "            f\"\x7bsorted(set(eagle_group_ids))\x7d does not match the set of " _ rfl,
  verbatim "exact \"\n" _ rfl,
  verbatim "            \"SlidingWindowSpec groups. Applying it would sparsify a group " _ rfl,
  verbatim "that \"\n" _ rfl,
  verbatim "            \"still shortens the hybrid prefix-cache hit. Unset the variable " _ rfl,
  verbatim "(the \"\n" _ rfl,
  verbatim "            \"automatic rule is safe on any model) or apply \"\n" _ rfl,
  verbatim "            \"overlay/patch_hybrid_prefix_hit.py first.\"\n" _ rfl,
  verbatim "        )\n" _ rfl,
  verbatim "    return tuple(\n" _ rfl,
  verbatim "        _glm53_retention_for_group(\n" _ rfl,
  verbatim "            g.kv_cache_spec,\n" _ rfl,
  verbatim "            global_interval,\n" _ rfl,
  verbatim "            swa_interval,\n" _ rfl,
  verbatim "            alignment_tokens,\n" _ rfl,
  verbatim "            i in min_exempt,\n" _ rfl,
  verbatim "        )\n" _ rfl,
  verbatim "        for i, g in enumerate(kv_cache_groups)\n" _ rfl,
  verbatim "    )\n" _ rfl,
  verbatim "\n" _ rfl,
  verbatim "\n" _ rfl,
  verbatim "def _glm53_validate_retention_intervals(  # [glm53-apc-per-group]\n" _ rfl,
  verbatim "    intervals,\n" _ rfl,
  verbatim "    scheduler_block_size,\n" _ rfl,
  verbatim "):\n" _ rfl,
  verbatim "    \"\"\"Per-group counterpart of " _ rfl,
  verbatim "_validate_prefix_cache_retention_interval.\n" _ rfl,
  verbatim "\n" _ rfl,
  verbatim "    Defence in depth over the resolved vector: every non-``None`` entry is " _ rfl,
  verbatim "either\n" _ rfl,
  verbatim "    0 or a non-negative multiple of ``scheduler_block_size``. No upper bound " _ rfl,
  verbatim "here\n" _ rfl,
  verbatim "    — inherited *global* values are upstream's to bound; the 1,000,000 cap\n" _ rfl,
  verbatim "    applies to the SWA value this overlay introduces " _ rfl,
  verbatim "(``_glm53_swa_retention_env``).\n" _ rfl,
  verbatim "    \"\"\"\n" _ rfl,
  verbatim "    for group_id, value in enumerate(intervals):\n" _ rfl,
  verbatim "        if value is None or value == 0:\n" _ rfl,
  verbatim "            continue\n" _ rfl,
  verbatim "        if value < 0 or value % scheduler_block_size != 0:\n" _ rfl,
  verbatim "            raise ValueError(\n" _ rfl,
  verbatim "                f\"prefix-cache retention interval for KV cache group " _ rfl,
  verbatim "\x7bgroup_id\x7d \"\n" _ rfl,
  verbatim "                f\"(\x7bvalue\x7d) must be non-negative and a multiple of \"\n" _ rfl,
  verbatim "                f\"scheduler_block_size (\x7bscheduler_block_size\x7d).\"\n" _ rfl,
  verbatim "            )\n" _ rfl,
  verbatim "\n" _ rfl,
  verbatim "\n" _ rfl,
  verbatim "def _glm53_format_retention_vector(intervals):  # [glm53-apc-per-group]\n" _ rfl,
  verbatim "    \"\"\"Compact, greppable rendering of the resolved vector: " _ rfl,
  verbatim "``[None,None,0]``.\"\"\"\n" _ rfl,
  verbatim "    return \"[\" + \",\".join(\"None\" if v is None else str(v) for v in " _ rfl,
  verbatim "intervals) + \"]\"\n" _ rfl,
  verbatim "\n" _ rfl,
  verbatim "\n" _ rfl]

def initOld : List Char := List.flatten [
  verbatim "        self.retention_interval = envs.VLLM_PREFIX_CACHE_RETENTION_INTERVAL\n" _ rfl,
  verbatim "        _validate_prefix_cache_retention_interval(\n" _ rfl,
  verbatim "            self.retention_interval, self.scheduler_block_size, " _ rfl,
  verbatim "kv_cache_config\n" _ rfl,
  verbatim "        )\n" _ rfl]

def initNew : List Char := List.flatten [
  verbatim "        self.retention_interval = envs.VLLM_PREFIX_CACHE_RETENTION_INTERVAL\n" _ rfl,
  verbatim "        _validate_prefix_cache_retention_interval(\n" _ rfl,
  verbatim "            self.retention_interval, self.scheduler_block_size, " _ rfl,
  verbatim "kv_cache_config\n" _ rfl,
  verbatim "        )\n" _ rfl,
  verbatim "        # [glm53-apc-per-group] Per-group retention. The DFlash2 drafter SWA " _ rfl,
  verbatim "group\n" _ rfl,
  verbatim "        # hashes cdiv(window - 1, block) + 1 == 33 block ids at EVERY hit " _ rfl,
  verbatim "boundary\n" _ rfl,
  verbatim "        # and frees them *cached* onto the LRU tail (BlockPool.free_blocks), " _ rfl,
  verbatim "i.e.\n" _ rfl,
  verbatim "        # 33 of the 38 ids a cached 3584-token segment costs -- for a group " _ rfl,
  verbatim "that is\n" _ rfl,
  verbatim "        # exempted from the hybrid hit min(). Give it its own sparse interval " _ rfl,
  verbatim "so\n" _ rfl,
  verbatim "        # MLA and mamba can stay dense and keep the fine hit grid. The raw " _ rfl,
  verbatim "env\n" _ rfl,
  verbatim "        # value is validated unconditionally; it is applied only to the " _ rfl,
  verbatim "groups the\n" _ rfl,
  verbatim "        # coordinator itself flagged EAGLE-exempt, else boot fails.\n" _ rfl,
  verbatim "        _glm53_swa_interval = " _ rfl,
  verbatim "_glm53_swa_retention_env(self.scheduler_block_size)\n" _ rfl,
  verbatim "        _glm53_min_exempt = _glm53_min_exempt_group_ids(\n" _ rfl,
  verbatim "            kv_cache_config.kv_cache_groups, self.eagle_group_ids\n" _ rfl,
  verbatim "        )\n" _ rfl,
  verbatim "        self.retention_interval_by_group = " _ rfl,
  verbatim "_glm53_resolve_retention_by_group(\n" _ rfl,
  verbatim "            kv_cache_config.kv_cache_groups,\n" _ rfl,
  verbatim "            self.eagle_group_ids,\n" _ rfl,
  verbatim "            self.retention_interval,\n" _ rfl,
  verbatim "            _glm53_swa_interval,\n" _ rfl,
  verbatim "            self.scheduler_block_size,\n" _ rfl,
  verbatim "        )\n" _ rfl,
  verbatim "        _glm53_validate_retention_intervals(\n" _ rfl,
  verbatim "            self.retention_interval_by_group, self.scheduler_block_size\n" _ rfl,
  verbatim "        )\n" _ rfl,
  verbatim "        logger.info(  # [glm53-apc-per-group]\n" _ rfl,
  verbatim "            \"[glm53-apc-per-group] retention_by_group=%s \"\n" _ rfl,
  verbatim "            \"(global=%s swa_env=%s eagle_min_exempt=%s)\",\n" _ rfl,
  verbatim "            _glm53_format_retention_vector(self.retention_interval_by_group)," _ rfl,
  verbatim "\n" _ rfl,
  verbatim "            self.retention_interval,\n" _ rfl,
  verbatim "            _glm53_swa_interval,\n" _ rfl,
  verbatim "            sorted(_glm53_min_exempt),\n" _ rfl,
  verbatim "        )\n" _ rfl]

def baseCacheOld : List Char := List.flatten [
  verbatim "        for manager in self.single_type_managers:\n" _ rfl,
  verbatim "            manager.cache_blocks(\n" _ rfl,
  verbatim "                request,\n" _ rfl,
  verbatim "                num_computed_tokens,\n" _ rfl,
  verbatim "                retention_interval=self.retention_interval,\n" _ rfl,
  verbatim "            )\n" _ rfl]

def baseCacheNew : List Char := List.flatten [
  verbatim "        for i, manager in enumerate(self.single_type_managers):\n" _ rfl,
  verbatim "            manager.cache_blocks(\n" _ rfl,
  verbatim "                request,\n" _ rfl,
  verbatim "                num_computed_tokens,\n" _ rfl,
  verbatim "                # [glm53-apc-per-group] per-group, not the single global " _ rfl,
  verbatim "value\n" _ rfl,
  verbatim "                retention_interval=self.retention_interval_by_group[i],\n" _ rfl,
  verbatim "            )\n" _ rfl]

def hybridLoopOld : List Char := List.flatten [
  verbatim "        for manager in self.single_type_managers:\n" _ rfl,
  verbatim "            num_tokens_to_cache = aligned_num_computed_tokens\n" _ rfl]

def hybridLoopNew : List Char := List.flatten [
  verbatim "        for i, manager in enumerate(self.single_type_managers):\n" _ rfl,
  verbatim "            num_tokens_to_cache = aligned_num_computed_tokens\n" _ rfl]

def hybridCacheOld : List Char := List.flatten [
  verbatim "            manager.cache_blocks(\n" _ rfl,
  verbatim "                request,\n" _ rfl,
  verbatim "                num_tokens_to_cache,\n" _ rfl,
  verbatim "                retention_interval=self.retention_interval,\n" _ rfl,
  verbatim "            )\n" _ rfl]

def hybridCacheNew : List Char := List.flatten [
  verbatim "            manager.cache_blocks(\n" _ rfl,
  verbatim "                request,\n" _ rfl,
  verbatim "                num_tokens_to_cache,\n" _ rfl,
  verbatim "                # [glm53-apc-per-group] per-group, not the single global " _ rfl,
  verbatim "value\n" _ rfl,
  verbatim "                retention_interval=self.retention_interval_by_group[i],\n" _ rfl,
  verbatim "            )\n" _ rfl]

def needle : List Char :=
  verbatim "def _validate_prefix_cache_retention_interval(\n" _ rfl

def importLine : List Char := verbatim "\nimport os\n" _ rfl

def innerDef : List Char := verbatim "def _glm53_inner_kv_spec(" _ rfl

def addImport (text : List Char) : Except PatchError (List Char) :=
  if holds importLine text then .ok text else replaceOnce "import" importOld importNew text

def install (text : List Char) : Except PatchError (List Char) := do
  ensure (count needle text = 1) (.refused "helper insert point not unique")
  let text ← addImport text
  let text := if holds innerDef text then text else replaceFirst needle (baseHelper ++ needle) text
  let text := replaceFirst needle (retentionHelper ++ needle) text
  let text ← replaceOnce "retention-init" initOld initNew text
  let text ← replaceOnce "base-cache_blocks" baseCacheOld baseCacheNew text
  let text ← replaceOnce "hybrid-loop" hybridLoopOld hybridLoopNew text
  replaceOnce "hybrid-cache_blocks" hybridCacheOld hybridCacheNew text

def patch (text : List Char) : Except PatchError (Option (List Char)) :=
  if holds mark text then .ok none
  else do return some (← install text)

def main : Option File → Except PatchError Unit × Option File := rewrite patch

end Installers.GroupRetention
