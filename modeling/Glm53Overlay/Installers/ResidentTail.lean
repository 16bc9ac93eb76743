import Glm53Overlay.Installers.TextPatch
import Glm53Overlay.Library.PyText

/-!
The resident tail's patcher of the scheduler source, armed by its flag. Two of its edits replace
the long-prefill threshold lines.
-/
namespace Installers.ResidentTail
open TextFile TextSearch TextEdit TextPatch

def mark : List Char := verbatim "[glm53-resident-tail]" _ rfl

def classLine : List Char := verbatim "class Scheduler(SchedulerInterface):\n" _ rfl

def runAnchor : List Char := List.flatten [
  verbatim "            request = self.running[req_index]\n" _ rfl,
  verbatim "            if input_budget <= draft_slots:\n" _ rfl,
  verbatim "                break\n" _ rfl]

def runCall : List Char := List.flatten [
  verbatim "            # [glm53-resident-tail] A cold prefill does not share this step\n" _ rfl,
  verbatim "            # with a resident tail. The tail keeps the token budget until\n" _ rfl,
  verbatim "            # its prefill is done, or until the step cap.\n" _ rfl,
  verbatim "            if _glm53_defer_cold_for_resident_tail(self, request):\n" _ rfl,
  verbatim "                req_index += 1\n" _ rfl,
  verbatim "                continue\n" _ rfl,
  verbatim "\n" _ rfl]

def runLptt : List Char := List.flatten [
  verbatim "            if 0 < self.scheduler_config.long_prefill_token_threshold < " _ rfl,
  verbatim "num_new_tokens:\n" _ rfl,
  verbatim "                num_new_tokens = " _ rfl,
  verbatim "self.scheduler_config.long_prefill_token_threshold\n" _ rfl,
  verbatim "            num_new_tokens = min(\n" _ rfl,
  verbatim "                num_new_tokens, token_budget, input_budget - draft_slots\n" _ rfl,
  verbatim "            )\n" _ rfl]

def runLpttNew : List Char := List.flatten [
  verbatim "            if (\n" _ rfl,
  verbatim "                0\n" _ rfl,
  verbatim "                < self.scheduler_config.long_prefill_token_threshold\n" _ rfl,
  verbatim "                < num_new_tokens\n" _ rfl,
  verbatim "                and not _glm53_tail_still_open(\n" _ rfl,
  verbatim "                    request, request.num_computed_tokens\n" _ rfl,
  verbatim "                )\n" _ rfl,
  verbatim "            ):\n" _ rfl,
  verbatim "                num_new_tokens = " _ rfl,
  verbatim "self.scheduler_config.long_prefill_token_threshold\n" _ rfl,
  verbatim "            num_new_tokens = min(\n" _ rfl,
  verbatim "                num_new_tokens, token_budget, input_budget - draft_slots\n" _ rfl,
  verbatim "            )\n" _ rfl]

def waitLptt : List Char := List.flatten [
  verbatim "                    threshold = " _ rfl,
  verbatim "self.scheduler_config.long_prefill_token_threshold\n" _ rfl,
  verbatim "                    if 0 < threshold < num_new_tokens:\n" _ rfl,
  verbatim "                        num_new_tokens = threshold\n" _ rfl]

def waitLpttNew : List Char := List.flatten [
  verbatim "                    _glm53_note_resident_tail(request, num_computed_tokens)\n" _ rfl,
  verbatim "                    threshold = " _ rfl,
  verbatim "self.scheduler_config.long_prefill_token_threshold\n" _ rfl,
  verbatim "                    if (\n" _ rfl,
  verbatim "                        0 < threshold < num_new_tokens\n" _ rfl,
  verbatim "                        and not _glm53_tail_still_open(\n" _ rfl,
  verbatim "                            request, num_computed_tokens\n" _ rfl,
  verbatim "                        )\n" _ rfl,
  verbatim "                    ):\n" _ rfl,
  verbatim "                        num_new_tokens = threshold\n" _ rfl]

/-- `_helper_source()`: the twelve functions as they stand in the patcher. -/
def helperLines : List (List Char) := [
  verbatim "def _glm53_resident_tail_limit(name: str, default: int, lo: int, hi: int) -> " _ rfl,
  verbatim "int:\n" _ rfl,
  verbatim "    \"\"\"Inclusive bound. A missing or unusable value falls back to " _ rfl,
  verbatim "``default``.\n" _ rfl,
  verbatim "\n" _ rfl,
  verbatim "    ``os`` is imported here because the installed scheduler does not have to\n" _ rfl,
  verbatim "    import it. The function is copied into that file as text.\n" _ rfl,
  verbatim "    \"\"\"\n" _ rfl,
  verbatim "    import os\n" _ rfl,
  verbatim "\n" _ rfl,
  verbatim "    raw = os.environ.get(name, str(default))\n" _ rfl,
  verbatim "    try:\n" _ rfl,
  verbatim "        value = int(str(raw).strip())\n" _ rfl,
  verbatim "    except (TypeError, ValueError):\n" _ rfl,
  verbatim "        return default\n" _ rfl,
  verbatim "    if value < lo or value > hi:\n" _ rfl,
  verbatim "        return default\n" _ rfl,
  verbatim "    return value\n" _ rfl,
  verbatim "\n" _ rfl,
  verbatim "\n" _ rfl,
  verbatim "def _glm53_resident_tail_page() -> int:\n" _ rfl,
  verbatim "    \"\"\"Cache-hit floor, in tokens. One MLA page on this deployment.\"\"\"\n" _ rfl,
  verbatim "    return _glm53_resident_tail_limit(\"GLM53_RESIDENT_TAIL_PAGE\", 3584, 64, " _ rfl,
  verbatim "65536)\n" _ rfl,
  verbatim "\n" _ rfl,
  verbatim "\n" _ rfl,
  verbatim "def _glm53_resident_tail_tokens() -> int:\n" _ rfl,
  verbatim "    \"\"\"Largest uncached remainder that still counts as a resident tail.\n" _ rfl,
  verbatim "\n" _ rfl,
  verbatim "    Matches the mixed-prefill warm bypass, so a tail that keeps the budget\n" _ rfl,
  verbatim "    is also a tail the decode floor will share a step with.\n" _ rfl,
  verbatim "    \"\"\"\n" _ rfl,
  verbatim "    return _glm53_resident_tail_limit(\"GLM53_RESIDENT_TAIL_TOKENS\", 3584, " _ rfl,
  verbatim "1, 65536)\n" _ rfl,
  verbatim "\n" _ rfl,
  verbatim "\n" _ rfl,
  verbatim "def _glm53_resident_tail_steps() -> int:\n" _ rfl,
  verbatim "    \"\"\"How many steps one cold prefill may yield before it runs " _ rfl,
  verbatim "again.\"\"\"\n" _ rfl,
  verbatim "    return _glm53_resident_tail_limit(\"GLM53_RESIDENT_TAIL_STEPS\", 4, 1, " _ rfl,
  verbatim "32)\n" _ rfl,
  verbatim "\n" _ rfl,
  verbatim "\n" _ rfl,
  verbatim "def _glm53_is_resident_tail(computed, prompt, page, tail) -> bool:\n" _ rfl,
  verbatim "    \"\"\"True when ``computed`` is a full page and the remainder fits in " _ rfl,
  verbatim "``tail``.\"\"\"\n" _ rfl,
  verbatim "    try:\n" _ rfl,
  verbatim "        computed_i = int(computed)\n" _ rfl,
  verbatim "        prompt_i = int(prompt)\n" _ rfl,
  verbatim "        page_i = int(page)\n" _ rfl,
  verbatim "        tail_i = int(tail)\n" _ rfl,
  verbatim "    except (TypeError, ValueError):\n" _ rfl,
  verbatim "        return False\n" _ rfl,
  verbatim "    if page_i <= 0 or tail_i <= 0:\n" _ rfl,
  verbatim "        return False\n" _ rfl,
  verbatim "    left = prompt_i - computed_i\n" _ rfl,
  verbatim "    return computed_i >= page_i and 0 < left <= tail_i\n" _ rfl,
  verbatim "\n" _ rfl,
  verbatim "\n" _ rfl,
  verbatim "def _glm53_should_defer_cold(\n" _ rfl,
  verbatim "    *,\n" _ rfl,
  verbatim "    prefill_left: int,\n" _ rfl,
  verbatim "    is_tail: bool,\n" _ rfl,
  verbatim "    tail_waiting: bool,\n" _ rfl,
  verbatim "    tail_running: bool,\n" _ rfl,
  verbatim "    num_running: int,\n" _ rfl,
  verbatim "    max_running: int,\n" _ rfl,
  verbatim "    defer_count: int,\n" _ rfl,
  verbatim "    step_cap: int,\n" _ rfl,
  verbatim ") -> bool:\n" _ rfl,
  verbatim "    \"\"\"True when this running cold prefill should leave the step to a " _ rfl,
  verbatim "tail.\n" _ rfl,
  verbatim "\n" _ rfl,
  verbatim "    A running tail needs no free slot: it is already admitted. A waiting\n" _ rfl,
  verbatim "    tail does, because deferring tokens does not free a sequence. Decodes\n" _ rfl,
  verbatim "    and a prefill that is itself the tail are never deferred.\n" _ rfl,
  verbatim "    \"\"\"\n" _ rfl,
  verbatim "    try:\n" _ rfl,
  verbatim "        left = int(prefill_left)\n" _ rfl,
  verbatim "        running = int(num_running)\n" _ rfl,
  verbatim "        limit = int(max_running)\n" _ rfl,
  verbatim "        used = int(defer_count)\n" _ rfl,
  verbatim "        cap = int(step_cap)\n" _ rfl,
  verbatim "    except (TypeError, ValueError):\n" _ rfl,
  verbatim "        return False\n" _ rfl,
  verbatim "    if is_tail or left <= 64 or used >= cap or cap <= 0:\n" _ rfl,
  verbatim "        return False\n" _ rfl,
  verbatim "    if tail_running:\n" _ rfl,
  verbatim "        return True\n" _ rfl,
  verbatim "    if tail_waiting and running < limit:\n" _ rfl,
  verbatim "        return True\n" _ rfl,
  verbatim "    return False\n" _ rfl,
  verbatim "\n" _ rfl,
  verbatim "\n" _ rfl,
  verbatim "def _glm53_note_resident_tail(request, computed) -> None:\n" _ rfl,
  verbatim "    \"\"\"Stamp a fresh admission. A request that already has computed tokens " _ rfl,
  verbatim "is left alone.\n" _ rfl,
  verbatim "\n" _ rfl,
  verbatim "    ``computed`` is the local cache hit, which on this path is not yet\n" _ rfl,
  verbatim "    copied onto ``request.num_computed_tokens``. A cold prefill's later\n" _ rfl,
  verbatim "    chunks therefore cannot grow into a tail. A stale stamp is cleared\n" _ rfl,
  verbatim "    when this admission does not qualify, so preemption cannot keep it.\n" _ rfl,
  verbatim "    \"\"\"\n" _ rfl,
  verbatim "    try:\n" _ rfl,
  verbatim "        already = int(getattr(request, \"num_computed_tokens\", 0) or 0)\n" _ rfl,
  verbatim "    except (TypeError, ValueError):\n" _ rfl,
  verbatim "        return\n" _ rfl,
  verbatim "    if already != 0:\n" _ rfl,
  verbatim "        return\n" _ rfl,
  verbatim "    try:\n" _ rfl,
  verbatim "        prompt = int(request.num_prompt_tokens)\n" _ rfl,
  verbatim "    except (TypeError, ValueError, AttributeError):\n" _ rfl,
  verbatim "        return\n" _ rfl,
  verbatim "    qualifies = _glm53_is_resident_tail(\n" _ rfl,
  verbatim "        computed,\n" _ rfl,
  verbatim "        prompt,\n" _ rfl,
  verbatim "        _glm53_resident_tail_page(),\n" _ rfl,
  verbatim "        _glm53_resident_tail_tokens(),\n" _ rfl,
  verbatim "    )\n" _ rfl,
  verbatim "    try:\n" _ rfl,
  verbatim "        request._glm53_resident_tail = 1 if qualifies else 0\n" _ rfl,
  verbatim "    except Exception:\n" _ rfl,
  verbatim "        return\n" _ rfl,
  verbatim "\n" _ rfl,
  verbatim "\n" _ rfl,
  verbatim "def _glm53_tail_still_open(request, computed) -> bool:\n" _ rfl,
  verbatim "    \"\"\"The admission stamp still describes a short cached " _ rfl,
  verbatim "remainder.\"\"\"\n" _ rfl,
  verbatim "    try:\n" _ rfl,
  verbatim "        stamp = int(getattr(request, \"_glm53_resident_tail\", 0) or 0)\n" _ rfl,
  verbatim "    except (TypeError, ValueError):\n" _ rfl,
  verbatim "        return False\n" _ rfl,
  verbatim "    if stamp != 1:\n" _ rfl,
  verbatim "        return False\n" _ rfl,
  verbatim "    try:\n" _ rfl,
  verbatim "        prompt = int(request.num_prompt_tokens)\n" _ rfl,
  verbatim "    except (TypeError, ValueError, AttributeError):\n" _ rfl,
  verbatim "        return False\n" _ rfl,
  verbatim "    return _glm53_is_resident_tail(\n" _ rfl,
  verbatim "        computed,\n" _ rfl,
  verbatim "        prompt,\n" _ rfl,
  verbatim "        _glm53_resident_tail_page(),\n" _ rfl,
  verbatim "        _glm53_resident_tail_tokens(),\n" _ rfl,
  verbatim "    )\n" _ rfl,
  verbatim "\n" _ rfl,
  verbatim "\n" _ rfl,
  verbatim "def _glm53_waiter_cache_hit(waiter, manager) -> int:\n" _ rfl,
  verbatim "    \"\"\"Resident tokens for a not-yet-computed waiter. Negative when it " _ rfl,
  verbatim "cannot qualify.\"\"\"\n" _ rfl,
  verbatim "    try:\n" _ rfl,
  verbatim "        computed = int(getattr(waiter, \"num_computed_tokens\", 0) or 0)\n" _ rfl,
  verbatim "    except (TypeError, ValueError):\n" _ rfl,
  verbatim "        return -1\n" _ rfl,
  verbatim "    if computed != 0:\n" _ rfl,
  verbatim "        return -1\n" _ rfl,
  verbatim "    hashes = getattr(waiter, \"block_hashes\", None)\n" _ rfl,
  verbatim "    if not hashes:\n" _ rfl,
  verbatim "        return -1\n" _ rfl,
  verbatim "    try:\n" _ rfl,
  verbatim "        ntok = int(getattr(waiter, \"num_tokens\", 0) or 0)\n" _ rfl,
  verbatim "    except (TypeError, ValueError):\n" _ rfl,
  verbatim "        ntok = 0\n" _ rfl,
  verbatim "    if ntok <= 1:\n" _ rfl,
  verbatim "        try:\n" _ rfl,
  verbatim "            ntok = int(getattr(waiter, \"num_prompt_tokens\", 0) or 0)\n" _ rfl,
  verbatim "        except (TypeError, ValueError):\n" _ rfl,
  verbatim "            return -1\n" _ rfl,
  verbatim "    if ntok <= 1:\n" _ rfl,
  verbatim "        return -1\n" _ rfl,
  verbatim "    try:\n" _ rfl,
  verbatim "        _blocks, hit, _uncached = " _ rfl,
  verbatim "manager.coordinator.find_longest_cache_hit(\n" _ rfl,
  verbatim "            hashes, ntok - 1\n" _ rfl,
  verbatim "        )\n" _ rfl,
  verbatim "        return max(0, int(hit))\n" _ rfl,
  verbatim "    except Exception:\n" _ rfl,
  verbatim "        return -1\n" _ rfl,
  verbatim "\n" _ rfl,
  verbatim "\n" _ rfl,
  verbatim "def _glm53_waiter_is_blocked(hold, waiter, running, block_size, " _ rfl,
  verbatim "hash_block_size) -> bool:\n" _ rfl,
  verbatim "    \"\"\"True when the in-flight prefix hold still wants this waiter to " _ rfl,
  verbatim "wait.\n" _ rfl,
  verbatim "\n" _ rfl,
  verbatim "    A missing hold means nothing is blocking the waiter. An exception is\n" _ rfl,
  verbatim "    fail-closed: the publisher of an unpublished page must not be deferred\n" _ rfl,
  verbatim "    because the hold could not be read.\n" _ rfl,
  verbatim "    \"\"\"\n" _ rfl,
  verbatim "    if hold is None:\n" _ rfl,
  verbatim "        return False\n" _ rfl,
  verbatim "    try:\n" _ rfl,
  verbatim "        return bool(hold(waiter, running, block_size, hash_block_size))\n" _ rfl,
  verbatim "    except Exception:\n" _ rfl,
  verbatim "        return True\n" _ rfl,
  verbatim "\n" _ rfl,
  verbatim "\n" _ rfl,
  verbatim "def _glm53_has_waiting_resident_tail(scheduler, page, tail) -> bool:\n" _ rfl,
  verbatim "    \"\"\"True when one of the first four fresh waiters is an unblocked " _ rfl,
  verbatim "resident tail.\"\"\"\n" _ rfl,
  verbatim "    try:\n" _ rfl,
  verbatim "        block_size = int(scheduler.block_size)\n" _ rfl,
  verbatim "        hash_block_size = int(scheduler.hash_block_size)\n" _ rfl,
  verbatim "        manager = scheduler.kv_cache_manager\n" _ rfl,
  verbatim "        running = scheduler.running\n" _ rfl,
  verbatim "    except (TypeError, ValueError, AttributeError):\n" _ rfl,
  verbatim "        return False\n" _ rfl,
  verbatim "    hold = globals().get(\"_glm53_hold_for_inflight_prefix\")\n" _ rfl,
  verbatim "    scanned = 0\n" _ rfl,
  verbatim "    for name in (\"waiting\", \"skipped_waiting\"):\n" _ rfl,
  verbatim "        queue = getattr(scheduler, name, None)\n" _ rfl,
  verbatim "        if not queue:\n" _ rfl,
  verbatim "            continue\n" _ rfl,
  verbatim "        try:\n" _ rfl,
  verbatim "            iterator = iter(queue)\n" _ rfl,
  verbatim "        except TypeError:\n" _ rfl,
  verbatim "            continue\n" _ rfl,
  verbatim "        for waiter in iterator:\n" _ rfl,
  verbatim "            if scanned >= 4:\n" _ rfl,
  verbatim "                return False\n" _ rfl,
  verbatim "            scanned += 1\n" _ rfl,
  verbatim "            if _glm53_waiter_is_blocked(\n" _ rfl,
  verbatim "                hold, waiter, running, block_size, hash_block_size\n" _ rfl,
  verbatim "            ):\n" _ rfl,
  verbatim "                continue\n" _ rfl,
  verbatim "            hit = _glm53_waiter_cache_hit(waiter, manager)\n" _ rfl,
  verbatim "            try:\n" _ rfl,
  verbatim "                prompt = int(waiter.num_prompt_tokens)\n" _ rfl,
  verbatim "            except (TypeError, ValueError, AttributeError):\n" _ rfl,
  verbatim "                continue\n" _ rfl,
  verbatim "            if _glm53_is_resident_tail(hit, prompt, page, tail):\n" _ rfl,
  verbatim "                return True\n" _ rfl,
  verbatim "    return False\n" _ rfl,
  verbatim "\n" _ rfl,
  verbatim "\n" _ rfl,
  verbatim "def _glm53_defer_cold_for_resident_tail(scheduler, request) -> bool:\n" _ rfl,
  verbatim "    \"\"\"Defer one running cold prefill. The counter is stamped only on " _ rfl,
  verbatim "success.\"\"\"\n" _ rfl,
  verbatim "    try:\n" _ rfl,
  verbatim "        prompt = int(request.num_prompt_tokens)\n" _ rfl,
  verbatim "        computed = int(request.num_computed_tokens)\n" _ rfl,
  verbatim "        num_running = len(scheduler.running)\n" _ rfl,
  verbatim "        max_running = int(scheduler.max_num_running_reqs)\n" _ rfl,
  verbatim "    except (TypeError, ValueError, AttributeError):\n" _ rfl,
  verbatim "        return False\n" _ rfl,
  verbatim "    left = prompt - computed\n" _ rfl,
  verbatim "    is_tail = _glm53_tail_still_open(request, computed)\n" _ rfl,
  verbatim "    try:\n" _ rfl,
  verbatim "        defer_count = int(getattr(request, \"_glm53_resident_tail_defers\", " _ rfl,
  verbatim "0) or 0)\n" _ rfl,
  verbatim "    except (TypeError, ValueError):\n" _ rfl,
  verbatim "        defer_count = 0\n" _ rfl,
  verbatim "    step_cap = _glm53_resident_tail_steps()\n" _ rfl,
  verbatim "    if is_tail or left <= 64 or defer_count >= step_cap:\n" _ rfl,
  verbatim "        return False\n" _ rfl,
  verbatim "    tail_running = False\n" _ rfl,
  verbatim "    for other in scheduler.running:\n" _ rfl,
  verbatim "        if other is request:\n" _ rfl,
  verbatim "            continue\n" _ rfl,
  verbatim "        try:\n" _ rfl,
  verbatim "            other_computed = int(other.num_computed_tokens)\n" _ rfl,
  verbatim "        except (TypeError, ValueError, AttributeError):\n" _ rfl,
  verbatim "            continue\n" _ rfl,
  verbatim "        if _glm53_tail_still_open(other, other_computed):\n" _ rfl,
  verbatim "            tail_running = True\n" _ rfl,
  verbatim "            break\n" _ rfl,
  verbatim "    tail_waiting = False\n" _ rfl,
  verbatim "    if not tail_running and num_running < max_running:\n" _ rfl,
  verbatim "        tail_waiting = _glm53_has_waiting_resident_tail(\n" _ rfl,
  verbatim "            scheduler,\n" _ rfl,
  verbatim "            _glm53_resident_tail_page(),\n" _ rfl,
  verbatim "            _glm53_resident_tail_tokens(),\n" _ rfl,
  verbatim "        )\n" _ rfl,
  verbatim "    if not _glm53_should_defer_cold(\n" _ rfl,
  verbatim "        prefill_left=left,\n" _ rfl,
  verbatim "        is_tail=is_tail,\n" _ rfl,
  verbatim "        tail_waiting=tail_waiting,\n" _ rfl,
  verbatim "        tail_running=tail_running,\n" _ rfl,
  verbatim "        num_running=num_running,\n" _ rfl,
  verbatim "        max_running=max_running,\n" _ rfl,
  verbatim "        defer_count=defer_count,\n" _ rfl,
  verbatim "        step_cap=step_cap,\n" _ rfl,
  verbatim "    ):\n" _ rfl,
  verbatim "        return False\n" _ rfl,
  verbatim "    try:\n" _ rfl,
  verbatim "        request._glm53_resident_tail_defers = defer_count + 1\n" _ rfl,
  verbatim "    except Exception:\n" _ rfl,
  verbatim "        return False\n" _ rfl,
  verbatim "    try:\n" _ rfl,
  verbatim "        log = globals().get(\"logger\")\n" _ rfl,
  verbatim "        if log is not None:\n" _ rfl,
  verbatim "            log.info(\n" _ rfl,
  verbatim "                \"[glm53-resident-tail] defer prefill %s remaining %s\",\n" _ rfl,
  verbatim "                getattr(request, \"request_id\", \"?\"),\n" _ rfl,
  verbatim "                left,\n" _ rfl,
  verbatim "            )\n" _ rfl,
  verbatim "    except Exception:\n" _ rfl,
  verbatim "        pass\n" _ rfl,
  verbatim "    return True\n" _ rfl,
  verbatim "\n" _ rfl,
  verbatim "\n" _ rfl,
  verbatim "\n" _ rfl]

def helperSource : List Char := helperLines.flatten

def isTailDef : List Char := verbatim "def _glm53_is_resident_tail(" _ rfl

def shouldDeferDef : List Char := verbatim "def _glm53_should_defer_cold(" _ rfl

def noteTailDef : List Char := verbatim "def _glm53_note_resident_tail(" _ rfl

def stillOpenDef : List Char := verbatim "def _glm53_tail_still_open(" _ rfl

def deferDef : List Char := verbatim "def _glm53_defer_cold_for_resident_tail(" _ rfl

def hasWaitingDef : List Char := verbatim "def _glm53_has_waiting_resident_tail(" _ rfl

def complete (text : List Char) : Bool :=
  count mark text = 2 ∧ count isTailDef text = 1 ∧ count shouldDeferDef text = 1 ∧
    count noteTailDef text = 1 ∧ count stillOpenDef text = 1 ∧ count deferDef text = 1 ∧
    count hasWaitingDef text = 1 ∧ count runCall text = 1 ∧ count runAnchor text = 1 ∧
    count runLpttNew text = 1 ∧ count runLptt text = 0 ∧ count waitLpttNew text = 1 ∧
    count waitLptt text = 0 ∧ count classLine text = 1

def edited (text : List Char) : List Char :=
  let patched := replaceFirst classLine (helperSource ++ classLine) text
  let patched := replaceFirst runAnchor (runAnchor ++ runCall) patched
  let patched := replaceFirst runLptt runLpttNew patched
  replaceFirst waitLptt waitLpttNew patched

def patch (py : Python) (text : List Char) : Except PatchError (Option (List Char)) :=
  if complete text then .ok none
  else do
    ensure (!holds mark text && !holds deferDef text) (.refused "partial install")
    ensure (count runAnchor text = 1 ∧ count runLptt text = 1 ∧ count waitLptt text = 1 ∧
      count classLine text = 1)
      (.anchorDrift [("loop", count runAnchor text), ("running_cap", count runLptt text),
        ("waiting_cap", count waitLptt text), ("class", count classLine text)])
    ensure (complete (edited text)) (.refused "patch did not land cleanly")
    ensure (py.compiles (edited text)) .syntaxError
    return some (edited text)

def main (py : Python) (flag : Option String) (file : Option File) :
    Except PatchError Unit × Option File :=
  let flag := PyText.strip (flag.getD "0")
  if flag = "0" then (.ok (), file)
  else if flag ≠ "1" then
    (.error (.refused "GLM53_RESIDENT_TAIL must be exactly 0 or 1"), file)
  else rewrite (patch py) file

def replaced : List (List Char) := [classLine, runAnchor, runLptt, waitLptt]

theorem edited_keeps {p text : List Char}
    (apart : ∀ old ∈ replaced, clear false p [] old [] = true) (present : p <:+: text) :
    p <:+: edited text := by
  have present := present_replaceFirst (helperSource ++ classLine)
    (apart classLine (by simp [replaced])) present
  have present := present_replaceFirst (runAnchor ++ runCall)
    (apart runAnchor (by simp [replaced])) present
  have present := present_replaceFirst runLpttNew (apart runLptt (by simp [replaced])) present
  exact present_replaceFirst waitLpttNew (apart waitLptt (by simp [replaced])) present

theorem patch_ok {py : Python} {text : List Char} {written : Option (List Char)}
    (done : patch py text = .ok written) :
    complete (written.getD text) = true ∧ (written = none ∨ written = some (edited text)) := by
  rw [patch] at done
  split at done
  · rename_i already
    cases done
    exact ⟨already, Or.inl rfl⟩
  · obtain ⟨_, _, done⟩ := bind_ok done
    obtain ⟨_, _, done⟩ := bind_ok done
    obtain ⟨_, landed, done⟩ := bind_ok done
    obtain ⟨_, _, done⟩ := bind_ok done
    cases done
    exact ⟨ensure_ok landed, Or.inr rfl⟩

theorem edited_no_return {text : List Char} (clean : '\r' ∉ text) : '\r' ∉ edited text := by
  have snippets : '\r' ∉ helperSource ++ classLine ∧ '\r' ∉ runAnchor ++ runCall ∧
      '\r' ∉ runLpttNew ∧ '\r' ∉ waitLpttNew := by decide +kernel
  intro member
  rcases mem_replaceFirst member with member | fresh
  · rcases mem_replaceFirst member with member | fresh
    · rcases mem_replaceFirst member with member | fresh
      · rcases mem_replaceFirst member with member | fresh
        · exact clean member
        · exact snippets.1 fresh
      · exact snippets.2.1 fresh
    · exact snippets.2.2.1 fresh
  · exact snippets.2.2.2 fresh

theorem complete_no_runLptt {text : List Char} (done : complete text = true) :
    ¬ runLptt <:+: text := by
  have counts := of_decide_eq_true done
  exact (count_eq_zero_iff (by decide) text).mp counts.2.2.2.2.2.2.2.2.2.2.1

end Installers.ResidentTail
