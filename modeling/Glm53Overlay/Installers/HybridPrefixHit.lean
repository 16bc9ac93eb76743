import Glm53Overlay.Installers.TextPatch

/-!
The patcher that keeps hybrid prefix-cache hits: a helper before the retention check of the
coordinator, and three rewrites. A marked file must carry the complete patch.
-/
namespace Installers.HybridPrefixHit
open TextFile TextSearch TextPatch

def mark : List Char := verbatim "# [glm53-hybrid-apc]" _ rfl

def helper : List Char := List.flatten [
  verbatim "\n" _ rfl,
  verbatim "def _glm53_inner_kv_spec(spec):\n" _ rfl,
  verbatim "    specs = getattr(spec, \"kv_cache_specs\", None)\n" _ rfl,
  verbatim "    if isinstance(specs, dict) and specs:\n" _ rfl,
  verbatim "        return next(iter(specs.values()))\n" _ rfl,
  verbatim "    return spec\n" _ rfl,
  verbatim "\n" _ rfl,
  verbatim "\n" _ rfl,
  verbatim "def _glm53_is_draft_swa_spec(spec) -> bool:\n" _ rfl,
  verbatim "    \"\"\"DFlash2 drafter: exact SlidingWindowSpec, not KpoolTailSpec.\"\"\"\n" _ rfl,
  verbatim "    return type(_glm53_inner_kv_spec(spec)).__name__ == " _ rfl,
  verbatim "\"SlidingWindowSpec\"\n" _ rfl,
  verbatim "\n" _ rfl,
  verbatim "\n" _ rfl]

def eagleOld : List Char := List.flatten [
  verbatim "        # Conservatively fall back to flag all groups when no group is " _ rfl,
  verbatim "flagged.\n" _ rfl,
  verbatim "        if use_eagle and not self.eagle_group_ids:\n" _ rfl,
  verbatim "            self.eagle_group_ids = " _ rfl,
  verbatim "set(range(len(kv_cache_config.kv_cache_groups)))\n" _ rfl]

def eagleNew : List Char := List.flatten [
  verbatim "        # Conservatively fall back to flag all groups when no group is " _ rfl,
  verbatim "flagged.\n" _ rfl,
  verbatim "        if use_eagle and not self.eagle_group_ids:\n" _ rfl,
  verbatim "            # [glm53-hybrid-apc] dflash is use_eagle(); GLM has no " _ rfl,
  verbatim "is_eagle_group\n" _ rfl,
  verbatim "            # annotator. Flag only the drafter SlidingWindowSpec group so MLA " _ rfl,
  verbatim "/\n" _ rfl,
  verbatim "            # mamba do not drop a whole scheduler page (~3584). MTP with no " _ rfl,
  verbatim "SWA\n" _ rfl,
  verbatim "            # group keeps the upstream all-groups fallback.\n" _ rfl,
  verbatim "            swa_ids = \x7b\n" _ rfl,
  verbatim "                i\n" _ rfl,
  verbatim "                for i, g in enumerate(kv_cache_config.kv_cache_groups)\n" _ rfl,
  verbatim "                if _glm53_is_draft_swa_spec(g.kv_cache_spec)\n" _ rfl,
  verbatim "            \x7d\n" _ rfl,
  verbatim "            self.eagle_group_ids = swa_ids or set(\n" _ rfl,
  verbatim "                range(len(kv_cache_config.kv_cache_groups))\n" _ rfl,
  verbatim "            )\n" _ rfl]

def minOld : List Char := List.flatten [
  verbatim "                if drop_eagle_block:\n" _ rfl,
  verbatim "                    eagle_verified.add(idx)\n" _ rfl,
  verbatim "                elif _new_hit_length < curr_hit_length:\n" _ rfl,
  verbatim "                    # length shrunk; invalidate previous eagle verifications\n" _ rfl,
  verbatim "                    eagle_verified.clear()\n" _ rfl,
  verbatim "                curr_hit_length = _new_hit_length\n" _ rfl,
  verbatim "                for group_id, blocks in zip(group_ids, hit_blocks):\n" _ rfl,
  verbatim "                    hit_blocks_by_group[group_id] = blocks\n" _ rfl,
  verbatim "                    hit_length_by_group[group_id] = _new_hit_length\n" _ rfl,
  verbatim "\n" _ rfl,
  verbatim "                longest_hit_length = max(longest_hit_length, " _ rfl,
  verbatim "curr_hit_length)\n" _ rfl]

def minNew : List Char := List.flatten [
  verbatim "                if drop_eagle_block:\n" _ rfl,
  verbatim "                    eagle_verified.add(idx)\n" _ rfl,
  verbatim "                elif _new_hit_length < curr_hit_length:\n" _ rfl,
  verbatim "                    # length shrunk; invalidate previous eagle verifications\n" _ rfl,
  verbatim "                    eagle_verified.clear()\n" _ rfl,
  verbatim "                if _glm53_is_draft_swa_spec(spec):  # [glm53-hybrid-apc]\n" _ rfl,
  verbatim "                    # Drafter SWA must not min() the hybrid hit. Its EAGLE " _ rfl,
  verbatim "pop\n" _ rfl,
  verbatim "                    # re-aligns by LCM(window block, MLA page) = 3584. If " _ rfl,
  verbatim "the\n" _ rfl,
  verbatim "                    # cached window does not cover the MLA/mamba hit, leave\n" _ rfl,
  verbatim "                    # blocks empty so a fresh window is allocated; do not\n" _ rfl,
  verbatim "                    # reseed the indexer tail here (KpoolTail already opted " _ rfl,
  verbatim "out).\n" _ rfl,
  verbatim "                    if _new_hit_length >= curr_hit_length:\n" _ rfl,
  verbatim "                        for group_id, blocks in zip(group_ids, hit_blocks):\n" _ rfl,
  verbatim "                            hit_blocks_by_group[group_id] = blocks\n" _ rfl,
  verbatim "                            hit_length_by_group[group_id] = _new_hit_length\n" _ rfl,
  verbatim "                    continue\n" _ rfl,
  verbatim "                curr_hit_length = _new_hit_length\n" _ rfl,
  verbatim "                for group_id, blocks in zip(group_ids, hit_blocks):\n" _ rfl,
  verbatim "                    hit_blocks_by_group[group_id] = blocks\n" _ rfl,
  verbatim "                    hit_length_by_group[group_id] = _new_hit_length\n" _ rfl,
  verbatim "\n" _ rfl,
  verbatim "                longest_hit_length = max(longest_hit_length, " _ rfl,
  verbatim "curr_hit_length)\n" _ rfl]

def logOld : List Char := List.flatten [
  verbatim "        # Propagate the eagle bit to each manager (default to " _ rfl,
  verbatim "``use_eagle=False``).\n" _ rfl,
  verbatim "        for group in self.attention_groups:\n" _ rfl,
  verbatim "            if group.use_eagle:\n" _ rfl,
  verbatim "                for gid in group.group_ids:\n" _ rfl,
  verbatim "                    self.single_type_managers[gid].use_eagle = True\n" _ rfl]

def logNew : List Char := List.flatten [
  verbatim "        # Propagate the eagle bit to each manager (default to " _ rfl,
  verbatim "``use_eagle=False``).\n" _ rfl,
  verbatim "        for group in self.attention_groups:\n" _ rfl,
  verbatim "            if group.use_eagle:\n" _ rfl,
  verbatim "                for gid in group.group_ids:\n" _ rfl,
  verbatim "                    self.single_type_managers[gid].use_eagle = True\n" _ rfl,
  verbatim "        logger.info(  # [glm53-hybrid-apc]\n" _ rfl,
  verbatim "            \"hybrid APC groups: %s; eagle_group_ids=%s\",\n" _ rfl,
  verbatim "            [\n" _ rfl,
  verbatim "                (\n" _ rfl,
  verbatim "                    type(_glm53_inner_kv_spec(g.spec)).__name__,\n" _ rfl,
  verbatim "                    g.group_ids,\n" _ rfl,
  verbatim "                    getattr(g.manager_cls, \"__name__\", " _ rfl,
  verbatim "type(g.manager_cls).__name__),\n" _ rfl,
  verbatim "                    g.use_eagle,\n" _ rfl,
  verbatim "                )\n" _ rfl,
  verbatim "                for g in self.attention_groups\n" _ rfl,
  verbatim "            ],\n" _ rfl,
  verbatim "            sorted(self.eagle_group_ids),\n" _ rfl,
  verbatim "        )\n" _ rfl]

def needle : List Char :=
  verbatim "def _validate_prefix_cache_retention_interval(\n" _ rfl

def innerDef : List Char := verbatim "def _glm53_inner_kv_spec(" _ rfl

def draftDef : List Char := verbatim "def _glm53_is_draft_swa_spec(" _ rfl

def swaFallback : List Char := verbatim "swa_ids or set(" _ rfl

def verifiedState (text : List Char) : Bool :=
  holds mark text && holds draftDef text && holds swaFallback text &&
    count eagleNew text = 1 && count minNew text = 1 && count logNew text = 1 &&
    count eagleOld text = 0 && count minOld text = 0

def install (text : List Char) : Except PatchError (List Char) := do
  ensure (count needle text = 1) (.refused "helper insert point not unique")
  let text := if holds innerDef text then text else replaceFirst needle (helper ++ needle) text
  let text ← replaceOnce "eagle-fallback" eagleOld eagleNew text
  let text ← replaceOnce "hybrid-min" minOld minNew text
  replaceOnce "group-log" logOld logNew text

def patch (py : Python) (text : List Char) : Except PatchError (Option (List Char)) :=
  if holds mark text then do
    ensure (verifiedState text) (.refused "present but hybrid APC patch is incomplete")
    return none
  else do
    let text ← install text
    ensure (verifiedState text) (.refused "hybrid APC post-patch verification failed")
    ensure (py.compiles text) .syntaxError
    return some text

def main (py : Python) : Option File → Except PatchError Unit × Option File :=
  rewrite (patch py)

end Installers.HybridPrefixHit
