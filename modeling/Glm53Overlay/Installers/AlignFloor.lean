import Glm53Overlay.Installers.TextPatch

/-!
The align floor's patcher of the scheduler source.
-/
namespace Installers.AlignFloor
open TextFile TextSearch TextEdit TextPatch

def mark : List Char := verbatim "# [glm53-align-floor]" _ rfl

def helper : List Char := List.flatten [
  verbatim "\n" _ rfl,
  verbatim "_GLM53_ALIGN_FLOOR = None\n" _ rfl,
  verbatim "\n" _ rfl,
  verbatim "\n" _ rfl,
  verbatim "def _glm53_align_floor():\n" _ rfl,
  verbatim "    \"\"\"True when the align-floor fix is enabled (default on).  # " _ rfl,
  verbatim "[glm53-align-floor]\n" _ rfl,
  verbatim "\n" _ rfl,
  verbatim "    Off restores the exact upstream disjunct, so rollback is one env value " _ rfl,
  verbatim "with\n" _ rfl,
  verbatim "    no kernel-shape change and therefore no JIT cache wipe.\n" _ rfl,
  verbatim "    \"\"\"\n" _ rfl,
  verbatim "    global _GLM53_ALIGN_FLOOR\n" _ rfl,
  verbatim "    if _GLM53_ALIGN_FLOOR is None:\n" _ rfl,
  verbatim "        v = os.environ.get(\"GLM53_ALIGN_FLOOR\", \"1\").strip().lower()\n" _ rfl,
  verbatim "        _GLM53_ALIGN_FLOOR = v not in (\"0\", \"off\", \"false\", \"no\", " _ rfl,
  verbatim "\"\")\n" _ rfl,
  verbatim "    return _GLM53_ALIGN_FLOOR\n" _ rfl,
  verbatim "\n" _ rfl]

def splitOld : List Char := List.flatten [
  verbatim "            aligned_end = end // block_size * block_size\n" _ rfl,
  verbatim "            if aligned_end > start or block_size <= max_prefill_tokens:\n" _ rfl,
  verbatim "                end = aligned_end\n" _ rfl]

def splitNew : List Char := List.flatten [
  verbatim "            aligned_end = end // block_size * block_size\n" _ rfl,
  verbatim "            # [glm53-align-floor] Truncate to the block boundary only when " _ rfl,
  verbatim "that\n" _ rfl,
  verbatim "            # leaves forward progress. With LPTT >= block_size the second\n" _ rfl,
  verbatim "            # disjunct fired even when aligned_end <= start, zeroing any\n" _ rfl,
  verbatim "            # sub-block chunk (notably the decode-floor late-admit ladder,\n" _ rfl,
  verbatim "            # whose caps are all < block_size) and stalling the request for " _ rfl,
  verbatim "as\n" _ rfl,
  verbatim "            # long as a peer decoded. Advancing sub-block and re-aligning at\n" _ rfl,
  verbatim "            # the next boundary is what the LPTT < block_size regime already\n" _ rfl,
  verbatim "            # does. Mandatory stops below are unaffected.\n" _ rfl,
  verbatim "            if aligned_end > start or (\n" _ rfl,
  verbatim "                block_size <= max_prefill_tokens and not " _ rfl,
  verbatim "_glm53_align_floor()\n" _ rfl,
  verbatim "            ):\n" _ rfl,
  verbatim "                end = aligned_end\n" _ rfl]

def floorDef : List Char := verbatim "def _glm53_align_floor(" _ rfl

def validateInstalled (py : Python) (text : List Char) : Except PatchError Unit := do
  ensure (py.parses text) .syntaxError
  ensure (count splitNew text = 1) (.refused "patched split block not present exactly once")
  ensure (count splitOld text = 0) (.refused "upstream split block still present after install")
  ensure (count helper text = 1) (.refused "helper missing, duplicated, or drifted")
  ensure (py.importsOs text) (.refused "helper requires a top-level plain 'import os'")

def patch (py : Python) (text : List Char) : Except PatchError (Option (List Char)) :=
  if holds mark text then do
    validateInstalled py text
    return none
  else do
    ensure (!holds splitNew text && !holds floorDef text)
      (.refused "partial or conflicting align-floor install detected")
    let text ← addImport text
    let text ← addHelper floorDef helper text
    let text ← replaceOnce "mamba-align-split" splitOld splitNew text
    validateInstalled py text
    return some text

def main (py : Python) : Option File → Except PatchError Unit × Option File :=
  rewrite (patch py)

def replaced : List (List Char) := [importOld, needle, splitOld]

theorem patch_keeps {py : Python} {p text out : List Char}
    (apart : ∀ old ∈ replaced, clear false p [] old [] = true)
    (done : patch py text = .ok (some out)) (present : p <:+: text) : p <:+: out := by
  rw [patch] at done
  split at done
  · obtain ⟨_, _, done⟩ := bind_ok done
    cases done
  · obtain ⟨_, _, done⟩ := bind_ok done
    obtain ⟨imported, first, done⟩ := bind_ok done
    obtain ⟨helped, second, done⟩ := bind_ok done
    obtain ⟨split, third, done⟩ := bind_ok done
    obtain ⟨_, _, done⟩ := bind_ok done
    cases done
    have present := present_addImport present (apart importOld (by simp [replaced])) first
    have present := present_addHelper present (apart needle (by simp [replaced])) second
    exact present_replaceOnce present (apart splitOld (by simp [replaced])) third

end Installers.AlignFloor
