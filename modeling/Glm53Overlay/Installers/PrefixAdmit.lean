import Glm53Overlay.Installers.TextPatch
import Glm53Overlay.Library.PyText

/-!
The prefix hold's patcher of the scheduler source, armed by its flag.
-/
namespace Installers.PrefixAdmit
open TextFile TextSearch TextEdit TextPatch

def mark : List Char := verbatim "[glm53-prefix-admit]" _ rfl

def insertAt : List Char := List.flatten [
  verbatim "logger = init_logger(__name__)\n" _ rfl,
  verbatim "\n" _ rfl,
  verbatim "\n" _ rfl,
  verbatim "class Scheduler(SchedulerInterface):\n" _ rfl]

def anchor : List Char := List.flatten [
  verbatim "                # Get already-cached tokens.\n" _ rfl,
  verbatim "                if request.num_computed_tokens == 0:\n" _ rfl]

def call : List Char := List.flatten [
  verbatim "                # [glm53-prefix-admit] Lookup below runs once. Wait until a\n" _ rfl,
  verbatim "                # running partner has hashed the longest full page this\n" _ rfl,
  verbatim "                # prompt shares, then admit. Pop so a different prefix\n" _ rfl,
  verbatim "                # behind this waiter is still considered this step.\n" _ rfl,
  verbatim "                if request.num_computed_tokens == 0:\n" _ rfl,
  verbatim "                    _glm53_prefix_need = _glm53_hold_for_inflight_prefix(\n" _ rfl,
  verbatim "                        request,\n" _ rfl,
  verbatim "                        self.running,\n" _ rfl,
  verbatim "                        self.block_size,\n" _ rfl,
  verbatim "                        self.hash_block_size,\n" _ rfl,
  verbatim "                    )\n" _ rfl,
  verbatim "                    if _glm53_prefix_need:\n" _ rfl,
  verbatim "                        if not getattr(\n" _ rfl,
  verbatim "                            request, \"_glm53_prefix_admit_logged\", False\n" _ rfl,
  verbatim "                        ):\n" _ rfl,
  verbatim "                            logger.info(\n" _ rfl,
  verbatim "                                \"[glm53-prefix-admit] holding %s for %s\"\n" _ rfl,
  verbatim "                                \" published tokens\",\n" _ rfl,
  verbatim "                                request.request_id,\n" _ rfl,
  verbatim "                                _glm53_prefix_need,\n" _ rfl,
  verbatim "                            )\n" _ rfl,
  verbatim "                            request._glm53_prefix_admit_logged = True\n" _ rfl,
  verbatim "                        request_queue.pop_request()\n" _ rfl,
  verbatim "                        step_skipped_waiting.prepend_request(request)\n" _ rfl,
  verbatim "                        continue\n" _ rfl,
  verbatim "\n" _ rfl]

/-- `_helper_source()`: the two functions as they stand in the patcher. -/
def helperLines : List (List Char) := [
  verbatim "def _glm53_aligned_prefix_tokens(mine, theirs, block: int) -> int:\n" _ rfl,
  verbatim "    \"\"\"Block-aligned token LCP. ``block`` is the coarser of the two " _ rfl,
  verbatim "grids.\n" _ rfl,
  verbatim "\n" _ rfl,
  verbatim "    Slices compare in C. A mismatch stops the scan, so a different prompt\n" _ rfl,
  verbatim "    does not walk the whole running prefill.\n" _ rfl,
  verbatim "    \"\"\"\n" _ rfl,
  verbatim "    if block <= 0:\n" _ rfl,
  verbatim "        return 0\n" _ rfl,
  verbatim "    try:\n" _ rfl,
  verbatim "        limit = min(len(mine), len(theirs))\n" _ rfl,
  verbatim "    except TypeError:\n" _ rfl,
  verbatim "        return 0\n" _ rfl,
  verbatim "    matched = 0\n" _ rfl,
  verbatim "    step = 256\n" _ rfl,
  verbatim "    while matched < limit:\n" _ rfl,
  verbatim "        nxt = matched + step\n" _ rfl,
  verbatim "        if nxt > limit:\n" _ rfl,
  verbatim "            nxt = limit\n" _ rfl,
  verbatim "        try:\n" _ rfl,
  verbatim "            same = mine[matched:nxt] == theirs[matched:nxt]\n" _ rfl,
  verbatim "        except TypeError:\n" _ rfl,
  verbatim "            return (matched // block) * block\n" _ rfl,
  verbatim "        if same:\n" _ rfl,
  verbatim "            matched = nxt\n" _ rfl,
  verbatim "            continue\n" _ rfl,
  verbatim "        while matched < nxt:\n" _ rfl,
  verbatim "            try:\n" _ rfl,
  verbatim "                if mine[matched] != theirs[matched]:\n" _ rfl,
  verbatim "                    return (matched // block) * block\n" _ rfl,
  verbatim "            except TypeError:\n" _ rfl,
  verbatim "                return (matched // block) * block\n" _ rfl,
  verbatim "            matched += 1\n" _ rfl,
  verbatim "        break\n" _ rfl,
  verbatim "    return (matched // block) * block\n" _ rfl,
  verbatim "\n" _ rfl,
  verbatim "\n" _ rfl,
  verbatim "def _glm53_hold_for_inflight_prefix(request, running, block_size, " _ rfl,
  verbatim "hash_block_size):\n" _ rfl,
  verbatim "    \"\"\"Tokens of shared prefix still unpublished, or 0 when the waiter can " _ rfl,
  verbatim "admit.\n" _ rfl,
  verbatim "\n" _ rfl,
  verbatim "    0 means: no running partner shares a full page, or the partner with the\n" _ rfl,
  verbatim "    longest share has already published it. A shorter partner that is ahead\n" _ rfl,
  verbatim "    does not release a longer share that is still in flight.\n" _ rfl,
  verbatim "    \"\"\"\n" _ rfl,
  verbatim "    try:\n" _ rfl,
  verbatim "        block = max(int(block_size), int(hash_block_size))\n" _ rfl,
  verbatim "    except (TypeError, ValueError):\n" _ rfl,
  verbatim "        return 0\n" _ rfl,
  verbatim "    if block <= 0:\n" _ rfl,
  verbatim "        return 0\n" _ rfl,
  verbatim "    mine = getattr(request, \"prompt_token_ids\", None)\n" _ rfl,
  verbatim "    if not mine:\n" _ rfl,
  verbatim "        return 0\n" _ rfl,
  verbatim "    shares = getattr(request, \"_glm53_prefix_shares\", None)\n" _ rfl,
  verbatim "    if shares is None:\n" _ rfl,
  verbatim "        shares = \x7b\x7d\n" _ rfl,
  verbatim "        try:\n" _ rfl,
  verbatim "            request._glm53_prefix_shares = shares\n" _ rfl,
  verbatim "        except Exception:\n" _ rfl,
  verbatim "            shares = \x7b\x7d\n" _ rfl,
  verbatim "    own_id = getattr(request, \"request_id\", None)\n" _ rfl,
  verbatim "    best = 0\n" _ rfl,
  verbatim "    best_ready = False\n" _ rfl,
  verbatim "    for partner in running:\n" _ rfl,
  verbatim "        if partner is request:\n" _ rfl,
  verbatim "            continue\n" _ rfl,
  verbatim "        partner_id = getattr(partner, \"request_id\", None)\n" _ rfl,
  verbatim "        if own_id is not None and partner_id == own_id:\n" _ rfl,
  verbatim "            continue\n" _ rfl,
  verbatim "        theirs = getattr(partner, \"prompt_token_ids\", None)\n" _ rfl,
  verbatim "        if not theirs:\n" _ rfl,
  verbatim "            continue\n" _ rfl,
  verbatim "        shared = shares.get(partner_id) if partner_id is not None else None\n" _ rfl,
  verbatim "        if shared is None:\n" _ rfl,
  verbatim "            shared = _glm53_aligned_prefix_tokens(mine, theirs, block)\n" _ rfl,
  verbatim "            if partner_id is not None:\n" _ rfl,
  verbatim "                shares[partner_id] = shared\n" _ rfl,
  verbatim "        if shared <= 0:\n" _ rfl,
  verbatim "            continue\n" _ rfl,
  verbatim "        try:\n" _ rfl,
  verbatim "            computed = int(getattr(partner, \"num_computed_tokens\", 0) or " _ rfl,
  verbatim "0)\n" _ rfl,
  verbatim "        except (TypeError, ValueError):\n" _ rfl,
  verbatim "            computed = 0\n" _ rfl,
  verbatim "        if computed < 0:\n" _ rfl,
  verbatim "            computed = 0\n" _ rfl,
  verbatim "        published = (computed // block) * block\n" _ rfl,
  verbatim "        ready = published >= shared\n" _ rfl,
  verbatim "        if shared > best:\n" _ rfl,
  verbatim "            best = shared\n" _ rfl,
  verbatim "            best_ready = ready\n" _ rfl,
  verbatim "        elif shared == best and ready:\n" _ rfl,
  verbatim "            best_ready = True\n" _ rfl,
  verbatim "    if best > 0 and not best_ready:\n" _ rfl,
  verbatim "        return best\n" _ rfl,
  verbatim "    return 0\n" _ rfl,
  verbatim "\n" _ rfl,
  verbatim "\n" _ rfl,
  verbatim "\n" _ rfl]

def helperSource : List Char := helperLines.flatten

def loggerLine : List Char := List.flatten [
  verbatim "logger = init_logger(__name__)\n" _ rfl,
  verbatim "\n" _ rfl,
  verbatim "\n" _ rfl]

def classLine : List Char := verbatim "class Scheduler(SchedulerInterface):\n" _ rfl

def prefixDef : List Char := verbatim "def _glm53_aligned_prefix_tokens(" _ rfl

def holdDef : List Char := verbatim "def _glm53_hold_for_inflight_prefix(" _ rfl

def complete (text : List Char) : Bool :=
  count mark text = 2 ∧ count prefixDef text = 1 ∧ count holdDef text = 1 ∧
    count call text = 1 ∧ count anchor text = 1

def patch (py : Python) (text : List Char) : Except PatchError (Option (List Char)) :=
  if complete text then .ok none
  else do
    ensure (!holds mark text && !holds holdDef text) (.refused "partial install")
    ensure (count anchor text = 1 ∧ count insertAt text = 1)
      (.anchorDrift [("lookup", count anchor text), ("class", count insertAt text)])
    let patched := replaceFirst insertAt (loggerLine ++ helperSource ++ classLine) text
    let patched := replaceFirst anchor (call ++ anchor) patched
    ensure (complete patched) (.refused "patch did not land cleanly")
    ensure (py.compiles patched) .syntaxError
    return some patched

def main (py : Python) (flag : Option String) (file : Option File) :
    Except PatchError Unit × Option File :=
  let flag := PyText.strip (flag.getD "0")
  if flag = "0" then (.ok (), file)
  else if flag ≠ "1" then
    (.error (.refused "GLM53_PREFIX_ADMIT must be exactly 0 or 1"), file)
  else rewrite (patch py) file

def replaced : List (List Char) := [insertAt, anchor]

theorem patch_keeps {py : Python} {p text out : List Char}
    (apart : ∀ old ∈ replaced, clear false p [] old [] = true)
    (done : patch py text = .ok (some out)) (present : p <:+: text) : p <:+: out := by
  rw [patch] at done
  split at done
  · cases done
  · obtain ⟨_, _, done⟩ := bind_ok done
    obtain ⟨_, _, done⟩ := bind_ok done
    obtain ⟨_, _, done⟩ := bind_ok done
    obtain ⟨_, _, done⟩ := bind_ok done
    cases done
    have present := present_replaceFirst (loggerLine ++ helperSource ++ classLine)
      (apart insertAt (by simp [replaced])) present
    exact present_replaceFirst (call ++ anchor) (apart anchor (by simp [replaced])) present

end Installers.PrefixAdmit
