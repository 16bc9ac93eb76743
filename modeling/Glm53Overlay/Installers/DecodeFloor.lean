import Glm53Overlay.Installers.TextPatch

/-!
The decode floor's patcher of the scheduler source: it installs the v3.1 gate into a pristine
file, upgrades the v1, v2 and v3 forms, and verifies a file that carries the v3.1 marker. The
five patchers of that file are run one behind the other by the launcher.
-/
namespace Installers.DecodeFloor
open TextFile TextSearch TextPatch

def mark : List Char := verbatim "# [glm53-decode-floor]" _ rfl

def markV2 : List Char := verbatim "[glm53-decode-floor-v2]" _ rfl

def markV3 : List Char := verbatim "[glm53-decode-floor-v3]" _ rfl

def markV31 : List Char := verbatim "[glm53-decode-floor-v3.1]" _ rfl

def helperV2Only : List Char := List.flatten [
  verbatim "\n" _ rfl,
  verbatim "_GLM53_GATE_CFG = None\n" _ rfl,
  verbatim "_GLM53_FIRST_SEEN_FALLBACK = None   # WeakKeyDictionary used only if Request " _ rfl,
  verbatim "rejects attribute assignment\n" _ rfl,
  verbatim "\n" _ rfl,
  verbatim "\n" _ rfl,
  verbatim "def _glm53_gate_config():\n" _ rfl,
  verbatim "    \"\"\"Parse the v2 gate knobs once (validated; bad values fall back to " _ rfl,
  verbatim "defaults and are reported once).  [glm53-decode-floor-v2]\"\"\"\n" _ rfl,
  verbatim "    global _GLM53_GATE_CFG\n" _ rfl,
  verbatim "    if _GLM53_GATE_CFG is not None:\n" _ rfl,
  verbatim "        return _GLM53_GATE_CFG\n" _ rfl,
  verbatim "\n" _ rfl,
  verbatim "    def _int(name, default, lo, hi):\n" _ rfl,
  verbatim "        raw = os.environ.get(name)\n" _ rfl,
  verbatim "        if raw is None or raw.strip() == \"\":\n" _ rfl,
  verbatim "            return default\n" _ rfl,
  verbatim "        try:\n" _ rfl,
  verbatim "            v = int(raw.strip(), 10)\n" _ rfl,
  verbatim "        except ValueError:\n" _ rfl,
  verbatim "            print(f\"[glm53-decode-floor-v2] \x7bname\x7d=\x7braw!r\x7d is " _ rfl,
  verbatim "not an integer; using \x7bdefault\x7d\", flush=True)\n" _ rfl,
  verbatim "            return default\n" _ rfl,
  verbatim "        if v < lo or v > hi:\n" _ rfl,
  verbatim "            print(f\"[glm53-decode-floor-v2] \x7bname\x7d=\x7bv\x7d outside " _ rfl,
  verbatim "[\x7blo\x7d, \x7bhi\x7d]; using \x7bdefault\x7d\", flush=True)\n" _ rfl,
  verbatim "            return default\n" _ rfl,
  verbatim "        return v\n" _ rfl,
  verbatim "\n" _ rfl,
  verbatim "    cfg = \x7b\n" _ rfl,
  verbatim "        \"warm_tokens\": _int(\"GLM53_MIXED_PREFILL_WARM_TOKENS\", 3584, 0, " _ rfl,
  verbatim "1_000_000),\n" _ rfl,
  verbatim "        \"max_wait_ms\": _int(\"GLM53_MIXED_PREFILL_MAX_WAIT_MS\", 1500, 0, " _ rfl,
  verbatim "600_000),\n" _ rfl,
  verbatim "        \"late_cap\": _int(\"GLM53_MIXED_PREFILL_LATE_CAP\", 512, 64, 8192),\n" _ rfl,
  verbatim "    \x7d\n" _ rfl,
  verbatim "    print(f\"[glm53-decode-floor-v2] gate config: \x7bcfg\x7d\", flush=True)\n" _ rfl,
  verbatim "    _GLM53_GATE_CFG = cfg\n" _ rfl,
  verbatim "    return cfg\n" _ rfl,
  verbatim "\n" _ rfl,
  verbatim "\n" _ rfl,
  verbatim "def _glm53_mixed_prefill_gate(running, current, num_computed_tokens):\n" _ rfl,
  verbatim "    \"\"\"Return (cap|None) for this prefill step: remaining-prefill " _ rfl,
  verbatim "threshold bypass + deadline.  [glm53-decode-floor-v2]\n" _ rfl,
  verbatim "\n" _ rfl,
  verbatim "    Bypass: remaining uncached prefill <= GLM53_MIXED_PREFILL_WARM_TOKENS " _ rfl,
  verbatim "(default 3584 = one hybrid block) -> no policy\n" _ rfl,
  verbatim "            (typically <= 2 MNBT steps). This is a size heuristic: it admits " _ rfl,
  verbatim "cached follow-up tails, short cold prompts\n" _ rfl,
  verbatim "            (the 30-token chat that used to wait 15 s), and the last block of " _ rfl,
  verbatim "a late-capped prefill alike.\n" _ rfl,
  verbatim "    Late:   waited >= GLM53_MIXED_PREFILL_MAX_WAIT_MS (default 1500) -> " _ rfl,
  verbatim "proceed under GLM53_MIXED_PREFILL_LATE_CAP\n" _ rfl,
  verbatim "            (default 512) tokens per step -- a bound on " _ rfl,
  verbatim "time-to-first-service, NOT on TTFT or completion: the request\n" _ rfl,
  verbatim "            then crawls like cap:N and slows running decodes for its " _ rfl,
  verbatim "duration. 0 ms = wait forever (v1 / issue #6).\n" _ rfl,
  verbatim "    Mutates the Request (first-seen stamp); the decision itself has no other " _ rfl,
  verbatim "side effects.\n" _ rfl,
  verbatim "    Remainder uses ``num_tokens`` (prompt + generated so far) like the base " _ rfl,
  verbatim "scheduler, so a preempted request that\n" _ rfl,
  verbatim "    resumes with its prompt cached still replays its output under the " _ rfl,
  verbatim "policy.\n" _ rfl,
  verbatim "    \"\"\"\n" _ rfl,
  verbatim "    import time as _t\n" _ rfl,
  verbatim "    cfg = _glm53_gate_config()\n" _ rfl,
  verbatim "    remaining = current.num_tokens - num_computed_tokens\n" _ rfl,
  verbatim "    if remaining <= 0:\n" _ rfl,
  verbatim "        return None\n" _ rfl,
  verbatim "    if remaining <= cfg[\"warm_tokens\"]:\n" _ rfl,
  verbatim "        return None\n" _ rfl,
  verbatim "    cap = _glm53_mixed_prefill_policy(running, current)\n" _ rfl,
  verbatim "    if cap is None or cap > 0:\n" _ rfl,
  verbatim "        return cap\n" _ rfl,
  verbatim "    max_wait_ms = cfg[\"max_wait_ms\"]\n" _ rfl,
  verbatim "    if max_wait_ms <= 0:\n" _ rfl,
  verbatim "        return cap\n" _ rfl,
  verbatim "    # First time this gate saw the request (monotonic; kept on the Request " _ rfl,
  verbatim "object so it survives chunking, preemption\n" _ rfl,
  verbatim "    # and requeue). If the Request class ever rejects attribute assignment, " _ rfl,
  verbatim "fall back to a WeakKeyDictionary (entries\n" _ rfl,
  verbatim "    # vanish with the request) and say so once -- never silently degrade to " _ rfl,
  verbatim "\"never late\".\n" _ rfl,
  verbatim "    global _GLM53_FIRST_SEEN_FALLBACK\n" _ rfl,
  verbatim "    first_seen = getattr(current, \"_glm53_gate_first_seen\", None)\n" _ rfl,
  verbatim "    if first_seen is None and _GLM53_FIRST_SEEN_FALLBACK is not None:\n" _ rfl,
  verbatim "        first_seen = _GLM53_FIRST_SEEN_FALLBACK.get(current)\n" _ rfl,
  verbatim "    if first_seen is None:\n" _ rfl,
  verbatim "        first_seen = _t.monotonic()\n" _ rfl,
  verbatim "        try:\n" _ rfl,
  verbatim "            current._glm53_gate_first_seen = first_seen\n" _ rfl,
  verbatim "        except AttributeError:\n" _ rfl,
  verbatim "            import weakref\n" _ rfl,
  verbatim "            if _GLM53_FIRST_SEEN_FALLBACK is None:\n" _ rfl,
  verbatim "                _GLM53_FIRST_SEEN_FALLBACK = weakref.WeakKeyDictionary()\n" _ rfl,
  verbatim "                print(\"[glm53-decode-floor-v2] Request rejects attributes; " _ rfl,
  verbatim "using a weak-keyed first-seen map\", flush=True)\n" _ rfl,
  verbatim "            _GLM53_FIRST_SEEN_FALLBACK[current] = first_seen\n" _ rfl,
  verbatim "    if (_t.monotonic() - first_seen) * 1000.0 >= max_wait_ms:\n" _ rfl,
  verbatim "        return max(min(cfg[\"late_cap\"], remaining), 1)\n" _ rfl,
  verbatim "    return cap\n" _ rfl,
  verbatim "\n" _ rfl,
  verbatim "\n" _ rfl]

def helperV3Only : List Char := List.flatten [
  verbatim "\n" _ rfl,
  verbatim "_GLM53_GATE_CFG = None\n" _ rfl,
  verbatim "_GLM53_FIRST_SEEN_FALLBACK = None   # WeakKeyDictionary used only if Request " _ rfl,
  verbatim "rejects attribute assignment\n" _ rfl,
  verbatim "\n" _ rfl,
  verbatim "\n" _ rfl,
  verbatim "def _glm53_gate_config():\n" _ rfl,
  verbatim "    \"\"\"Parse the gate knobs once (validated; bad values fall back to " _ rfl,
  verbatim "defaults and are reported once).  [glm53-decode-floor-v2] " _ rfl,
  verbatim "[glm53-decode-floor-v3]\"\"\"\n" _ rfl,
  verbatim "    global _GLM53_GATE_CFG\n" _ rfl,
  verbatim "    if _GLM53_GATE_CFG is not None:\n" _ rfl,
  verbatim "        return _GLM53_GATE_CFG\n" _ rfl,
  verbatim "\n" _ rfl,
  verbatim "    def _int(name, default, lo, hi):\n" _ rfl,
  verbatim "        raw = os.environ.get(name)\n" _ rfl,
  verbatim "        if raw is None or raw.strip() == \"\":\n" _ rfl,
  verbatim "            return default\n" _ rfl,
  verbatim "        try:\n" _ rfl,
  verbatim "            v = int(raw.strip(), 10)\n" _ rfl,
  verbatim "        except ValueError:\n" _ rfl,
  verbatim "            print(f\"[glm53-decode-floor-v3] \x7bname\x7d=\x7braw!r\x7d is " _ rfl,
  verbatim "not an integer; using \x7bdefault\x7d\", flush=True)\n" _ rfl,
  verbatim "            return default\n" _ rfl,
  verbatim "        if v < lo or v > hi:\n" _ rfl,
  verbatim "            print(f\"[glm53-decode-floor-v3] \x7bname\x7d=\x7bv\x7d outside " _ rfl,
  verbatim "[\x7blo\x7d, \x7bhi\x7d]; using \x7bdefault\x7d\", flush=True)\n" _ rfl,
  verbatim "            return default\n" _ rfl,
  verbatim "        return v\n" _ rfl,
  verbatim "\n" _ rfl,
  verbatim "    cfg = \x7b\n" _ rfl,
  verbatim "        \"warm_tokens\": _int(\"GLM53_MIXED_PREFILL_WARM_TOKENS\", 3584, 0, " _ rfl,
  verbatim "1_000_000),\n" _ rfl,
  verbatim "        \"max_wait_ms\": _int(\"GLM53_MIXED_PREFILL_MAX_WAIT_MS\", 1500, 0, " _ rfl,
  verbatim "600_000),\n" _ rfl,
  verbatim "        \"late_cap\": _int(\"GLM53_MIXED_PREFILL_LATE_CAP\", 512, 64, 8192),\n" _ rfl,
  verbatim "        # v3 aging: 0 = flat v2 crawl; N = the late cap doubles every N ms up " _ rfl,
  verbatim "to late_cap_max\n" _ rfl,
  verbatim "        \"escalate_ms\": _int(\"GLM53_MIXED_PREFILL_ESCALATE_MS\", 0, 0, " _ rfl,
  verbatim "600_000),\n" _ rfl,
  verbatim "        \"late_cap_max\": _int(\"GLM53_MIXED_PREFILL_LATE_CAP_MAX\", 1792, " _ rfl,
  verbatim "64, 8192),\n" _ rfl,
  verbatim "    \x7d\n" _ rfl,
  verbatim "    if cfg[\"late_cap_max\"] < cfg[\"late_cap\"]:\n" _ rfl,
  verbatim "        print(f\"[glm53-decode-floor-v3] LATE_CAP_MAX " _ rfl,
  verbatim "\x7bcfg['late_cap_max']\x7d < LATE_CAP \x7bcfg['late_cap']\x7d; clamping to " _ rfl,
  verbatim "LATE_CAP\", flush=True)\n" _ rfl,
  verbatim "        cfg[\"late_cap_max\"] = cfg[\"late_cap\"]\n" _ rfl,
  verbatim "    print(f\"[glm53-decode-floor-v3] gate config: \x7bcfg\x7d\", flush=True)\n" _ rfl,
  verbatim "    _GLM53_GATE_CFG = cfg\n" _ rfl,
  verbatim "    return cfg\n" _ rfl,
  verbatim "\n" _ rfl,
  verbatim "\n" _ rfl,
  verbatim "def _glm53_fallback_get(current):\n" _ rfl,
  verbatim "    \"\"\"Bounded id-keyed fallback map lookup; the stored request_id guards " _ rfl,
  verbatim "against id() reuse.  [glm53-decode-floor-v3]\"\"\"\n" _ rfl,
  verbatim "    m = _GLM53_FIRST_SEEN_FALLBACK\n" _ rfl,
  verbatim "    if not m:\n" _ rfl,
  verbatim "        return None\n" _ rfl,
  verbatim "    ent = m.get(id(current))\n" _ rfl,
  verbatim "    if ent is None:\n" _ rfl,
  verbatim "        return None\n" _ rfl,
  verbatim "    rid, st = ent\n" _ rfl,
  verbatim "    if rid != getattr(current, \"request_id\", None):\n" _ rfl,
  verbatim "        m.pop(id(current), None)\n" _ rfl,
  verbatim "        return None\n" _ rfl,
  verbatim "    return st\n" _ rfl,
  verbatim "\n" _ rfl,
  verbatim "\n" _ rfl,
  verbatim "def _glm53_fallback_put(current, st):\n" _ rfl,
  verbatim "    global _GLM53_FIRST_SEEN_FALLBACK\n" _ rfl,
  verbatim "    if _GLM53_FIRST_SEEN_FALLBACK is None:\n" _ rfl,
  verbatim "        _GLM53_FIRST_SEEN_FALLBACK = \x7b\x7d\n" _ rfl,
  verbatim "        print(\"[glm53-decode-floor-v3] Request rejects attributes; using a " _ rfl,
  verbatim "bounded id-keyed state map\", flush=True)\n" _ rfl,
  verbatim "    m = _GLM53_FIRST_SEEN_FALLBACK\n" _ rfl,
  verbatim "    if len(m) >= 4096:\n" _ rfl,
  verbatim "        for k in list(m)[:1024]:\n" _ rfl,
  verbatim "            m.pop(k, None)\n" _ rfl,
  verbatim "    m[id(current)] = (getattr(current, \"request_id\", None), st)\n" _ rfl,
  verbatim "\n" _ rfl,
  verbatim "\n" _ rfl,
  verbatim "def _glm53_gate_state(current, create=False):\n" _ rfl,
  verbatim "    \"\"\"Per-request gate state (first_seen / late_at / cap / done / " _ rfl,
  verbatim "last_computed) kept on the Request so it\n" _ rfl,
  verbatim "    survives chunking, preemption and requeue; bounded id-keyed fallback " _ rfl,
  verbatim "(request_id-checked) if the Request\n" _ rfl,
  verbatim "    class rejects attributes -- no weakrefs, so slotted or unhashable Request " _ rfl,
  verbatim "types cannot raise here.  [glm53-decode-floor-v3]\"\"\"\n" _ rfl,
  verbatim "    st = getattr(current, \"_glm53_gate_state\", None)\n" _ rfl,
  verbatim "    if st is None:\n" _ rfl,
  verbatim "        st = _glm53_fallback_get(current)\n" _ rfl,
  verbatim "    if st is None and create:\n" _ rfl,
  verbatim "        st = \x7b\x7d\n" _ rfl,
  verbatim "        try:\n" _ rfl,
  verbatim "            current._glm53_gate_state = st\n" _ rfl,
  verbatim "        except AttributeError:\n" _ rfl,
  verbatim "            _glm53_fallback_put(current, st)\n" _ rfl,
  verbatim "    return st\n" _ rfl,
  verbatim "\n" _ rfl,
  verbatim "\n" _ rfl,
  verbatim "def _glm53_mixed_prefill_gate(running, current, num_computed_tokens):\n" _ rfl,
  verbatim "    \"\"\"Return (cap|None) for this prefill step: remaining-prefill " _ rfl,
  verbatim "threshold bypass + deadline + aging.  [glm53-decode-floor-v2] " _ rfl,
  verbatim "[glm53-decode-floor-v3]\n" _ rfl,
  verbatim "\n" _ rfl,
  verbatim "    Bypass: remaining uncached prefill <= GLM53_MIXED_PREFILL_WARM_TOKENS " _ rfl,
  verbatim "(default 3584 = one hybrid block) -> no policy\n" _ rfl,
  verbatim "            (typically <= 2 MNBT steps): cached follow-up tails, short cold " _ rfl,
  verbatim "prompts, and the last block of a late crawl.\n" _ rfl,
  verbatim "    Late:   waited >= GLM53_MIXED_PREFILL_MAX_WAIT_MS (default 1500) -> " _ rfl,
  verbatim "proceed under GLM53_MIXED_PREFILL_LATE_CAP\n" _ rfl,
  verbatim "            (default 512) tokens per step -- a bound on " _ rfl,
  verbatim "time-to-first-service, NOT on TTFT or completion.\n" _ rfl,
  verbatim "    Aging:  once late, the cap doubles every GLM53_MIXED_PREFILL_ESCALATE_MS " _ rfl,
  verbatim "(default 0 = flat v2 crawl) up to\n" _ rfl,
  verbatim "            GLM53_MIXED_PREFILL_LATE_CAP_MAX (default 1792 = the long-prefill " _ rfl,
  verbatim "chunk ceiling), so a cold read behind a\n" _ rfl,
  verbatim "            long generation converges toward full chunks instead of crawling " _ rfl,
  verbatim "at the floor for minutes. On this MoE the\n" _ rfl,
  verbatim "            per-step cost is dominated by expert-weight streaming, so a small " _ rfl,
  verbatim "cap multiplies the number of expensive\n" _ rfl,
  verbatim "            steps and taxes the running decodes for longer -- aging bounds " _ rfl,
  verbatim "the tax in time.\n" _ rfl,
  verbatim "    Log:    one line per late admission, per escalation step, and when the " _ rfl,
  verbatim "crawl reaches its bypass tail (crawl_ms).\n" _ rfl,
  verbatim "    Remainder uses ``num_tokens`` (prompt + generated so far) like the base " _ rfl,
  verbatim "scheduler.\n" _ rfl,
  verbatim "    \"\"\"\n" _ rfl,
  verbatim "    import time as _t\n" _ rfl,
  verbatim "    cfg = _glm53_gate_config()\n" _ rfl,
  verbatim "    remaining = current.num_tokens - num_computed_tokens\n" _ rfl,
  verbatim "    if remaining <= 0:\n" _ rfl,
  verbatim "        return None\n" _ rfl,
  verbatim "    st = _glm53_gate_state(current)\n" _ rfl,
  verbatim "    if st is not None:\n" _ rfl,
  verbatim "        last = st.get(\"last_computed\")\n" _ rfl,
  verbatim "        if last is not None and num_computed_tokens < last:\n" _ rfl,
  verbatim "            # preempted and rolled back: the hold age (first_seen) survives, " _ rfl,
  verbatim "the crawl episode does not,\n" _ rfl,
  verbatim "            # so a resumed request re-admits at the base late cap and logs " _ rfl,
  verbatim "its own crawl.\n" _ rfl,
  verbatim "            st.pop(\"late_at\", None); st.pop(\"cap\", None); " _ rfl,
  verbatim "st.pop(\"done\", None)\n" _ rfl,
  verbatim "        st[\"last_computed\"] = num_computed_tokens\n" _ rfl,
  verbatim "    if remaining <= cfg[\"warm_tokens\"]:\n" _ rfl,
  verbatim "        if st is not None and st.get(\"late_at\") is not None and not " _ rfl,
  verbatim "st.get(\"done\"):\n" _ rfl,
  verbatim "            st[\"done\"] = True\n" _ rfl,
  verbatim "            print(f\"[glm53-decode-floor-v3] late-done " _ rfl,
  verbatim "req=\x7bgetattr(current, 'request_id', '?')\x7d \"\n" _ rfl,
  verbatim "                  f\"crawl_ms=\x7bint((_t.monotonic() - st['late_at']) * " _ rfl,
  verbatim "1000)\x7d final_cap=\x7bst.get('cap')\x7d\", flush=True)\n" _ rfl,
  verbatim "        return None\n" _ rfl,
  verbatim "    cap = _glm53_mixed_prefill_policy(running, current)\n" _ rfl,
  verbatim "    if cap is None or cap > 0:\n" _ rfl,
  verbatim "        return cap\n" _ rfl,
  verbatim "    max_wait_ms = cfg[\"max_wait_ms\"]\n" _ rfl,
  verbatim "    if max_wait_ms <= 0:\n" _ rfl,
  verbatim "        return cap\n" _ rfl,
  verbatim "    if st is None:\n" _ rfl,
  verbatim "        st = _glm53_gate_state(current, create=True)\n" _ rfl,
  verbatim "        st[\"last_computed\"] = num_computed_tokens\n" _ rfl,
  verbatim "    now = _t.monotonic()\n" _ rfl,
  verbatim "    if st.get(\"first_seen\") is None:\n" _ rfl,
  verbatim "        st[\"first_seen\"] = now\n" _ rfl,
  verbatim "    waited_ms = (now - st[\"first_seen\"]) * 1000.0\n" _ rfl,
  verbatim "    if waited_ms < max_wait_ms:\n" _ rfl,
  verbatim "        return cap\n" _ rfl,
  verbatim "    late_cap = cfg[\"late_cap\"]\n" _ rfl,
  verbatim "    if st.get(\"late_at\") is None:\n" _ rfl,
  verbatim "        st[\"late_at\"] = now\n" _ rfl,
  verbatim "        print(f\"[glm53-decode-floor-v3] late-admit req=\x7bgetattr(current, " _ rfl,
  verbatim "'request_id', '?')\x7d \"\n" _ rfl,
  verbatim "              f\"waited_ms=\x7bint(waited_ms)\x7d remaining=\x7bremaining\x7d " _ rfl,
  verbatim "cap=\x7blate_cap\x7d\", flush=True)\n" _ rfl,
  verbatim "    esc = cfg[\"escalate_ms\"]\n" _ rfl,
  verbatim "    if esc > 0:\n" _ rfl,
  verbatim "        doublings = min(int(((now - st[\"late_at\"]) * 1000.0) // esc), 8)\n" _ rfl,
  verbatim "        late_cap = min(cfg[\"late_cap_max\"], late_cap << doublings)\n" _ rfl,
  verbatim "    if late_cap != st.get(\"cap\"):\n" _ rfl,
  verbatim "        if st.get(\"cap\") is not None:\n" _ rfl,
  verbatim "            print(f\"[glm53-decode-floor-v3] late-escalate " _ rfl,
  verbatim "req=\x7bgetattr(current, 'request_id', '?')\x7d \"\n" _ rfl,
  verbatim "                  f\"cap=\x7bst['cap']\x7d->\x7blate_cap\x7d\", flush=True)\n" _ rfl,
  verbatim "        st[\"cap\"] = late_cap\n" _ rfl,
  verbatim "    return max(min(late_cap, remaining), 1)\n" _ rfl,
  verbatim "\n" _ rfl,
  verbatim "\n" _ rfl]

/-- What `_build_v31_helper` makes of the v3 helper. -/
def helperV31Lines : List (List Char) := [
  verbatim "\n" _ rfl,
  verbatim "_GLM53_GATE_CFG = None\n" _ rfl,
  verbatim "_GLM53_FIRST_SEEN_FALLBACK = None   # WeakKeyDictionary used only if Request " _ rfl,
  verbatim "rejects attribute assignment\n" _ rfl,
  verbatim "\n" _ rfl,
  verbatim "\n" _ rfl,
  verbatim "def _glm53_gate_config():\n" _ rfl,
  verbatim "    \"\"\"Parse the gate knobs once (validated; bad values fall back to " _ rfl,
  verbatim "defaults and are reported once).  [glm53-decode-floor-v2] " _ rfl,
  verbatim "[glm53-decode-floor-v3.1]\"\"\"\n" _ rfl,
  verbatim "    global _GLM53_GATE_CFG\n" _ rfl,
  verbatim "    if _GLM53_GATE_CFG is not None:\n" _ rfl,
  verbatim "        return _GLM53_GATE_CFG\n" _ rfl,
  verbatim "\n" _ rfl,
  verbatim "    def _int(name, default, lo, hi):\n" _ rfl,
  verbatim "        raw = os.environ.get(name)\n" _ rfl,
  verbatim "        if raw is None or raw.strip() == \"\":\n" _ rfl,
  verbatim "            return default\n" _ rfl,
  verbatim "        try:\n" _ rfl,
  verbatim "            v = int(raw.strip(), 10)\n" _ rfl,
  verbatim "        except ValueError:\n" _ rfl,
  verbatim "            print(f\"[glm53-decode-floor-v3.1] \x7bname\x7d=\x7braw!r\x7d is " _ rfl,
  verbatim "not an integer; using \x7bdefault\x7d\", flush=True)\n" _ rfl,
  verbatim "            return default\n" _ rfl,
  verbatim "        if v < lo or v > hi:\n" _ rfl,
  verbatim "            print(f\"[glm53-decode-floor-v3.1] \x7bname\x7d=\x7bv\x7d outside " _ rfl,
  verbatim "[\x7blo\x7d, \x7bhi\x7d]; using \x7bdefault\x7d\", flush=True)\n" _ rfl,
  verbatim "            return default\n" _ rfl,
  verbatim "        return v\n" _ rfl,
  verbatim "\n" _ rfl,
  verbatim "    cfg = \x7b\n" _ rfl,
  verbatim "        \"warm_tokens\": _int(\"GLM53_MIXED_PREFILL_WARM_TOKENS\", 3584, 0, " _ rfl,
  verbatim "1_000_000),\n" _ rfl,
  verbatim "        \"max_wait_ms\": _int(\"GLM53_MIXED_PREFILL_MAX_WAIT_MS\", 1500, 0, " _ rfl,
  verbatim "600_000),\n" _ rfl,
  verbatim "        \"late_cap\": _int(\"GLM53_MIXED_PREFILL_LATE_CAP\", 512, 64, 8192),\n" _ rfl,
  verbatim "        # v3 aging: 0 = flat v2 crawl; N = the late cap doubles every N ms up " _ rfl,
  verbatim "to late_cap_max\n" _ rfl,
  verbatim "        \"escalate_ms\": _int(\"GLM53_MIXED_PREFILL_ESCALATE_MS\", 0, 0, " _ rfl,
  verbatim "600_000),\n" _ rfl,
  verbatim "        \"late_cap_max\": _int(\"GLM53_MIXED_PREFILL_LATE_CAP_MAX\", 1792, " _ rfl,
  verbatim "64, 8192),\n" _ rfl,
  verbatim "    \x7d\n" _ rfl,
  verbatim "    if cfg[\"late_cap_max\"] < cfg[\"late_cap\"]:\n" _ rfl,
  verbatim "        print(f\"[glm53-decode-floor-v3.1] LATE_CAP_MAX " _ rfl,
  verbatim "\x7bcfg['late_cap_max']\x7d < LATE_CAP \x7bcfg['late_cap']\x7d; clamping to " _ rfl,
  verbatim "LATE_CAP\", flush=True)\n" _ rfl,
  verbatim "        cfg[\"late_cap_max\"] = cfg[\"late_cap\"]\n" _ rfl,
  verbatim "    print(f\"[glm53-decode-floor-v3.1] gate config: \x7bcfg\x7d\", " _ rfl,
  verbatim "flush=True)\n" _ rfl,
  verbatim "    _GLM53_GATE_CFG = cfg\n" _ rfl,
  verbatim "    return cfg\n" _ rfl,
  verbatim "\n" _ rfl,
  verbatim "\n" _ rfl,
  verbatim "def _glm53_fallback_get(current):\n" _ rfl,
  verbatim "    \"\"\"Bounded id-keyed fallback map lookup; the stored request_id guards " _ rfl,
  verbatim "against id() reuse.  [glm53-decode-floor-v3.1]\"\"\"\n" _ rfl,
  verbatim "    m = _GLM53_FIRST_SEEN_FALLBACK\n" _ rfl,
  verbatim "    if not m:\n" _ rfl,
  verbatim "        return None\n" _ rfl,
  verbatim "    ent = m.get(id(current))\n" _ rfl,
  verbatim "    if ent is None:\n" _ rfl,
  verbatim "        return None\n" _ rfl,
  verbatim "    rid, st = ent\n" _ rfl,
  verbatim "    if rid != getattr(current, \"request_id\", None):\n" _ rfl,
  verbatim "        m.pop(id(current), None)\n" _ rfl,
  verbatim "        return None\n" _ rfl,
  verbatim "    return st\n" _ rfl,
  verbatim "\n" _ rfl,
  verbatim "\n" _ rfl,
  verbatim "def _glm53_fallback_put(current, st):\n" _ rfl,
  verbatim "    global _GLM53_FIRST_SEEN_FALLBACK\n" _ rfl,
  verbatim "    if _GLM53_FIRST_SEEN_FALLBACK is None:\n" _ rfl,
  verbatim "        _GLM53_FIRST_SEEN_FALLBACK = \x7b\x7d\n" _ rfl,
  verbatim "        print(\"[glm53-decode-floor-v3.1] Request rejects attributes; using a " _ rfl,
  verbatim "bounded id-keyed state map\", flush=True)\n" _ rfl,
  verbatim "    m = _GLM53_FIRST_SEEN_FALLBACK\n" _ rfl,
  verbatim "    if len(m) >= 4096:\n" _ rfl,
  verbatim "        for k in list(m)[:1024]:\n" _ rfl,
  verbatim "            m.pop(k, None)\n" _ rfl,
  verbatim "    m[id(current)] = (getattr(current, \"request_id\", None), st)\n" _ rfl,
  verbatim "\n" _ rfl,
  verbatim "\n" _ rfl,
  verbatim "def _glm53_gate_state(current, create=False):\n" _ rfl,
  verbatim "    \"\"\"Per-request gate state (first_seen / late_at / cap / done / " _ rfl,
  verbatim "last_computed) kept on the Request so it\n" _ rfl,
  verbatim "    survives chunking, preemption and requeue; bounded id-keyed fallback " _ rfl,
  verbatim "(request_id-checked) if the Request\n" _ rfl,
  verbatim "    class rejects attributes -- no weakrefs, so slotted or unhashable Request " _ rfl,
  verbatim "types cannot raise here.  [glm53-decode-floor-v3.1]\"\"\"\n" _ rfl,
  verbatim "    st = getattr(current, \"_glm53_gate_state\", None)\n" _ rfl,
  verbatim "    if st is None:\n" _ rfl,
  verbatim "        st = _glm53_fallback_get(current)\n" _ rfl,
  verbatim "    if st is None and create:\n" _ rfl,
  verbatim "        st = \x7b\x7d\n" _ rfl,
  verbatim "        try:\n" _ rfl,
  verbatim "            current._glm53_gate_state = st\n" _ rfl,
  verbatim "        except AttributeError:\n" _ rfl,
  verbatim "            _glm53_fallback_put(current, st)\n" _ rfl,
  verbatim "    return st\n" _ rfl,
  verbatim "\n" _ rfl,
  verbatim "\n" _ rfl,
  verbatim "def _glm53_set_capped(st, now, active):\n" _ rfl,
  verbatim "    \"\"\"Accumulate only intervals where the late-admitted request is " _ rfl,
  verbatim "capped.\"\"\"\n" _ rfl,
  verbatim "    if st is None or st.get(\"late_at\") is None:\n" _ rfl,
  verbatim "        return\n" _ rfl,
  verbatim "    capped_at = st.get(\"capped_at\")\n" _ rfl,
  verbatim "    if active:\n" _ rfl,
  verbatim "        if capped_at is None:\n" _ rfl,
  verbatim "            st[\"capped_at\"] = now\n" _ rfl,
  verbatim "    elif capped_at is not None:\n" _ rfl,
  verbatim "        st[\"capped_s\"] = st.get(\"capped_s\", 0.0) + max(now - capped_at, " _ rfl,
  verbatim "0.0)\n" _ rfl,
  verbatim "        st[\"capped_at\"] = None\n" _ rfl,
  verbatim "\n" _ rfl,
  verbatim "\n" _ rfl,
  verbatim "def _glm53_mixed_prefill_gate(running, current, num_computed_tokens):\n" _ rfl,
  verbatim "    \"\"\"Return (cap|None) for this prefill step: remaining-prefill " _ rfl,
  verbatim "threshold bypass + deadline + aging.  [glm53-decode-floor-v2] " _ rfl,
  verbatim "[glm53-decode-floor-v3.1]\n" _ rfl,
  verbatim "\n" _ rfl,
  verbatim "    Bypass: remaining uncached prefill <= GLM53_MIXED_PREFILL_WARM_TOKENS " _ rfl,
  verbatim "(default 3584 = one hybrid block) -> no policy\n" _ rfl,
  verbatim "            (typically <= 2 MNBT steps): cached follow-up tails, short cold " _ rfl,
  verbatim "prompts, and the last block of a late crawl.\n" _ rfl,
  verbatim "    Late:   waited >= GLM53_MIXED_PREFILL_MAX_WAIT_MS (default 1500) -> " _ rfl,
  verbatim "proceed under GLM53_MIXED_PREFILL_LATE_CAP\n" _ rfl,
  verbatim "            (default 512) tokens per step -- a bound on " _ rfl,
  verbatim "time-to-first-service, NOT on TTFT or completion.\n" _ rfl,
  verbatim "    Aging:  once late, the cap doubles every GLM53_MIXED_PREFILL_ESCALATE_MS " _ rfl,
  verbatim "(default 0 = flat v2 crawl) up to\n" _ rfl,
  verbatim "            GLM53_MIXED_PREFILL_LATE_CAP_MAX (default 1792 = the long-prefill " _ rfl,
  verbatim "chunk ceiling), so a cold read behind a\n" _ rfl,
  verbatim "            long generation converges toward full chunks instead of crawling " _ rfl,
  verbatim "at the floor for minutes. On this MoE the\n" _ rfl,
  verbatim "            per-step cost is dominated by expert-weight streaming, so a small " _ rfl,
  verbatim "cap multiplies the number of expensive\n" _ rfl,
  verbatim "            steps and taxes the running decodes for longer -- aging bounds " _ rfl,
  verbatim "the tax in time.\n" _ rfl,
  verbatim "    Log:    one line per late admission, per escalation step, and when the " _ rfl,
  verbatim "crawl reaches its bypass tail (crawl_ms).\n" _ rfl,
  verbatim "    Remainder uses ``num_tokens`` (prompt + generated so far) like the base " _ rfl,
  verbatim "scheduler.\n" _ rfl,
  verbatim "    \"\"\"\n" _ rfl,
  verbatim "    import time as _t\n" _ rfl,
  verbatim "    cfg = _glm53_gate_config()\n" _ rfl,
  verbatim "    now = _t.monotonic()\n" _ rfl,
  verbatim "    remaining = current.num_tokens - num_computed_tokens\n" _ rfl,
  verbatim "    if remaining <= 0:\n" _ rfl,
  verbatim "        return None\n" _ rfl,
  verbatim "    st = _glm53_gate_state(current)\n" _ rfl,
  verbatim "    if st is not None:\n" _ rfl,
  verbatim "        last = st.get(\"last_computed\")\n" _ rfl,
  verbatim "        if last is not None and num_computed_tokens < last:\n" _ rfl,
  verbatim "            # preempted and rolled back: the hold age (first_seen) survives, " _ rfl,
  verbatim "the crawl episode does not,\n" _ rfl,
  verbatim "            # so a resumed request re-admits at the base late cap and logs " _ rfl,
  verbatim "its own crawl.\n" _ rfl,
  verbatim "            st.pop(\"late_at\", None); st.pop(\"cap\", None); " _ rfl,
  verbatim "st.pop(\"done\", None)\n" _ rfl,
  verbatim "            st.pop(\"capped_at\", None); st.pop(\"capped_s\", None)\n" _ rfl,
  verbatim "        st[\"last_computed\"] = num_computed_tokens\n" _ rfl,
  verbatim "    if remaining <= cfg[\"warm_tokens\"]:\n" _ rfl,
  verbatim "        if st is not None and st.get(\"late_at\") is not None and not " _ rfl,
  verbatim "st.get(\"done\"):\n" _ rfl,
  verbatim "            _glm53_set_capped(st, now, False)\n" _ rfl,
  verbatim "            st[\"done\"] = True\n" _ rfl,
  verbatim "            print(f\"[glm53-decode-floor-v3.1] late-done " _ rfl,
  verbatim "req=\x7bgetattr(current, 'request_id', '?')\x7d \"\n" _ rfl,
  verbatim "                  f\"crawl_wall_ms=\x7bround((now - st['late_at']) * " _ rfl,
  verbatim "1000)\x7d \"\n" _ rfl,
  verbatim "                  f\"crawl_capped_ms=\x7bround(st.get('capped_s', 0.0) * " _ rfl,
  verbatim "1000)\x7d \"\n" _ rfl,
  verbatim "                  f\"final_cap=\x7bst.get('cap')\x7d\", flush=True)\n" _ rfl,
  verbatim "        return None\n" _ rfl,
  verbatim "    cap = _glm53_mixed_prefill_policy(running, current)\n" _ rfl,
  verbatim "    if cap is None or cap > 0:\n" _ rfl,
  verbatim "        _glm53_set_capped(st, now, False)\n" _ rfl,
  verbatim "        return cap\n" _ rfl,
  verbatim "    max_wait_ms = cfg[\"max_wait_ms\"]\n" _ rfl,
  verbatim "    if max_wait_ms <= 0:\n" _ rfl,
  verbatim "        return cap\n" _ rfl,
  verbatim "    if st is None:\n" _ rfl,
  verbatim "        st = _glm53_gate_state(current, create=True)\n" _ rfl,
  verbatim "        st[\"last_computed\"] = num_computed_tokens\n" _ rfl,
  verbatim "    if st.get(\"first_seen\") is None:\n" _ rfl,
  verbatim "        st[\"first_seen\"] = now\n" _ rfl,
  verbatim "    waited_ms = (now - st[\"first_seen\"]) * 1000.0\n" _ rfl,
  verbatim "    if waited_ms < max_wait_ms:\n" _ rfl,
  verbatim "        return cap\n" _ rfl,
  verbatim "    late_cap = cfg[\"late_cap\"]\n" _ rfl,
  verbatim "    if st.get(\"late_at\") is None:\n" _ rfl,
  verbatim "        st[\"late_at\"] = now\n" _ rfl,
  verbatim "        print(f\"[glm53-decode-floor-v3.1] late-admit " _ rfl,
  verbatim "req=\x7bgetattr(current, 'request_id', '?')\x7d \"\n" _ rfl,
  verbatim "              f\"waited_ms=\x7bint(waited_ms)\x7d remaining=\x7bremaining\x7d " _ rfl,
  verbatim "cap=\x7blate_cap\x7d\", flush=True)\n" _ rfl,
  verbatim "    esc = cfg[\"escalate_ms\"]\n" _ rfl,
  verbatim "    if esc > 0:\n" _ rfl,
  verbatim "        doublings = min(int(((now - st[\"late_at\"]) * 1000.0) // esc), 8)\n" _ rfl,
  verbatim "        late_cap = min(cfg[\"late_cap_max\"], late_cap << doublings)\n" _ rfl,
  verbatim "    if late_cap != st.get(\"cap\"):\n" _ rfl,
  verbatim "        if st.get(\"cap\") is not None:\n" _ rfl,
  verbatim "            print(f\"[glm53-decode-floor-v3.1] late-escalate " _ rfl,
  verbatim "req=\x7bgetattr(current, 'request_id', '?')\x7d \"\n" _ rfl,
  verbatim "                  f\"cap=\x7bst['cap']\x7d->\x7blate_cap\x7d\", flush=True)\n" _ rfl,
  verbatim "        st[\"cap\"] = late_cap\n" _ rfl,
  verbatim "    _glm53_set_capped(st, now, True)\n" _ rfl,
  verbatim "    return max(min(late_cap, remaining), 1)\n" _ rfl,
  verbatim "\n" _ rfl,
  verbatim "\n" _ rfl]

def helperV31Only : List Char := helperV31Lines.flatten

def helperPolicy : List Char := List.flatten [
  verbatim "def _glm53_mixed_prefill_policy(running, current):\n" _ rfl,
  verbatim "    \"\"\"Mixed-step prefill policy when a peer in `running` is decoding.\n" _ rfl,
  verbatim "\n" _ rfl,
  verbatim "    None = no extra policy. 0 = skip this prefill this step. N>0 = cap.\n" _ rfl,
  verbatim "    \"\"\"\n" _ rfl,
  verbatim "    raw = os.environ.get(\"GLM53_MIXED_PREFILL_CHUNK\", " _ rfl,
  verbatim "\"skip\").strip().lower()\n" _ rfl,
  verbatim "    if raw in (\"0\", \"off\", \"no\"):\n" _ rfl,
  verbatim "        return None\n" _ rfl,
  verbatim "    if raw in (\"skip\", \"-1\"):\n" _ rfl,
  verbatim "        cap = 0\n" _ rfl,
  verbatim "    else:\n" _ rfl,
  verbatim "        try:\n" _ rfl,
  verbatim "            cap = int(raw)\n" _ rfl,
  verbatim "        except ValueError:\n" _ rfl,
  verbatim "            cap = 0\n" _ rfl,
  verbatim "        if cap <= 0:\n" _ rfl,
  verbatim "            return None\n" _ rfl,
  verbatim "    cur_id = getattr(current, \"request_id\", None)\n" _ rfl,
  verbatim "    for r in running:\n" _ rfl,
  verbatim "        if r is current or getattr(r, \"request_id\", None) == cur_id:\n" _ rfl,
  verbatim "            continue\n" _ rfl,
  verbatim "        if r.num_computed_tokens >= r.num_prompt_tokens:\n" _ rfl,
  verbatim "            return cap\n" _ rfl,
  verbatim "    return None\n" _ rfl,
  verbatim "\n" _ rfl,
  verbatim "\n" _ rfl]

def helper : List Char := helperV31Only ++ helperPolicy

def runningOld : List Char := List.flatten [
  verbatim "            if 0 < self.scheduler_config.long_prefill_token_threshold < " _ rfl,
  verbatim "num_new_tokens:\n" _ rfl,
  verbatim "                num_new_tokens = " _ rfl,
  verbatim "self.scheduler_config.long_prefill_token_threshold\n" _ rfl,
  verbatim "            num_new_tokens = min(\n" _ rfl,
  verbatim "                num_new_tokens, token_budget, input_budget - draft_slots\n" _ rfl,
  verbatim "            )\n" _ rfl,
  verbatim "\n" _ rfl,
  verbatim "            # Make sure the input position does not exceed the max model " _ rfl,
  verbatim "len.\n" _ rfl]

def runningNew : List Char := List.flatten [
  verbatim "            if 0 < self.scheduler_config.long_prefill_token_threshold < " _ rfl,
  verbatim "num_new_tokens:\n" _ rfl,
  verbatim "                num_new_tokens = " _ rfl,
  verbatim "self.scheduler_config.long_prefill_token_threshold\n" _ rfl,
  verbatim "            num_new_tokens = min(\n" _ rfl,
  verbatim "                num_new_tokens, token_budget, input_budget - draft_slots\n" _ rfl,
  verbatim "            )\n" _ rfl,
  verbatim "            mixed_cap = _glm53_mixed_prefill_gate(self.running, request, " _ rfl,
  verbatim "request.num_computed_tokens)  # [glm53-decode-floor] [glm53-decode-floor-v2]\n" _ rfl,
  verbatim "            if mixed_cap is not None:\n" _ rfl,
  verbatim "                num_new_tokens = min(num_new_tokens, mixed_cap)\n" _ rfl,
  verbatim "\n" _ rfl,
  verbatim "            # Make sure the input position does not exceed the max model " _ rfl,
  verbatim "len.\n" _ rfl]

def waitingOld : List Char := List.flatten [
  verbatim "                    threshold = " _ rfl,
  verbatim "self.scheduler_config.long_prefill_token_threshold\n" _ rfl,
  verbatim "                    if 0 < threshold < num_new_tokens:\n" _ rfl,
  verbatim "                        num_new_tokens = threshold\n" _ rfl,
  verbatim "\n" _ rfl,
  verbatim "                    # chunked prefill has to be enabled explicitly to allow\n" _ rfl]

def waitingNew : List Char := List.flatten [
  verbatim "                    threshold = " _ rfl,
  verbatim "self.scheduler_config.long_prefill_token_threshold\n" _ rfl,
  verbatim "                    if 0 < threshold < num_new_tokens:\n" _ rfl,
  verbatim "                        num_new_tokens = threshold\n" _ rfl,
  verbatim "                    mixed_cap = _glm53_mixed_prefill_gate(self.running, " _ rfl,
  verbatim "request, num_computed_tokens)  # [glm53-decode-floor] " _ rfl,
  verbatim "[glm53-decode-floor-v2]\n" _ rfl,
  verbatim "                    if mixed_cap is not None:\n" _ rfl,
  verbatim "                        if mixed_cap <= 0:\n" _ rfl,
  verbatim "                            request_queue.pop_request()\n" _ rfl,
  verbatim "                            step_skipped_waiting.prepend_request(request)\n" _ rfl,
  verbatim "                            continue\n" _ rfl,
  verbatim "                        num_new_tokens = min(num_new_tokens, mixed_cap)\n" _ rfl,
  verbatim "\n" _ rfl,
  verbatim "                    # chunked prefill has to be enabled explicitly to allow\n" _ rfl]

def v1Running : List Char := List.flatten [
  verbatim "            mixed_cap = _glm53_mixed_prefill_policy(self.running, request)  # " _ rfl,
  verbatim "[glm53-decode-floor]\n" _ rfl,
  verbatim "            if mixed_cap is not None and request.num_computed_tokens < " _ rfl,
  verbatim "request.num_prompt_tokens:\n" _ rfl,
  verbatim "                num_new_tokens = min(num_new_tokens, mixed_cap)\n" _ rfl]

def v2Running : List Char := List.flatten [
  verbatim "            mixed_cap = _glm53_mixed_prefill_gate(self.running, request, " _ rfl,
  verbatim "request.num_computed_tokens)  # [glm53-decode-floor] [glm53-decode-floor-v2]\n" _ rfl,
  verbatim "            if mixed_cap is not None:\n" _ rfl,
  verbatim "                num_new_tokens = min(num_new_tokens, mixed_cap)\n" _ rfl]

def v1Waiting : List Char := List.flatten [
  verbatim "                    mixed_cap = _glm53_mixed_prefill_policy(self.running, " _ rfl,
  verbatim "request)  # [glm53-decode-floor]\n" _ rfl,
  verbatim "                    if mixed_cap is not None and num_computed_tokens < " _ rfl,
  verbatim "request.num_prompt_tokens:\n" _ rfl]

def v2Waiting : List Char := List.flatten [
  verbatim "                    mixed_cap = _glm53_mixed_prefill_gate(self.running, " _ rfl,
  verbatim "request, num_computed_tokens)  # [glm53-decode-floor] " _ rfl,
  verbatim "[glm53-decode-floor-v2]\n" _ rfl,
  verbatim "                    if mixed_cap is not None:\n" _ rfl]

def policyDef : List Char := verbatim "def _glm53_mixed_prefill_policy(" _ rfl

def policyHead : List Char := verbatim "def _glm53_mixed_prefill_policy(running, current):" _ rfl

def gateDef : List Char := verbatim "def _glm53_mixed_prefill_gate(" _ rfl

def upgradeV1ToV2 (text : List Char) : Except PatchError (List Char) := do
  let text ← replaceOnce "v1 running call site" v1Running v2Running text
  let text ← replaceOnce "v1 waiting call site" v1Waiting v2Waiting text
  expectOne "v1 helper def" policyHead text
  return replaceFirst policyHead (helperV2Only ++ policyHead) text

/-- A retained helper is exchanged for the v3.1 helper; the call sites stay. -/
def upgradeToV31 (label : String) (old : List Char) (failed : String) (text : List Char) :
    Except PatchError (List Char) := do
  let text ← replaceOnce label old helperV31Only text
  ensure (holds markV31 text && !holds old text && count gateDef text = 1) (.refused failed)
  return text

def upgradeV2ToV31 : List Char → Except PatchError (List Char) :=
  upgradeToV31 "v2 helper block" helperV2Only "v2 -> v3.1 upgrade postcondition failed"

def upgradeV3ToV31 : List Char → Except PatchError (List Char) :=
  upgradeToV31 "v3 helper block" helperV3Only "v3 -> v3.1 upgrade postcondition failed"

def validateV31 (py : Python) (text : List Char) : Except PatchError Unit := do
  expectOne "v3.1 helper" helperV31Only text
  expectOne "mixed-prefill policy" helperPolicy text
  expectOne "complete running gate" runningNew text
  expectOne "complete waiting gate" waitingNew text
  ensure (!holds helperV2Only text && !holds helperV3Only text)
    (.refused "predecessor helper remains after v3.1 install")
  ensure (py.parses text) .syntaxError
  ensure (py.importsOs text) (.refused "required top-level unaliased import os is missing")

def verified (py : Python) (text : List Char) : Except PatchError (Option (List Char)) := do
  validateV31 py text
  ensure (py.compiles text) .syntaxError
  return some text

def installPristine (text : List Char) : Except PatchError (List Char) := do
  let text ← addImport text
  let text ← addHelper policyDef helper text
  let text ← replaceOnce "running-prefill" runningOld runningNew text
  replaceOnce "waiting-prefill" waitingOld waitingNew text

/-- The form a text is in is told by its markers, the newest first. -/
def patch (py : Python) (text : List Char) : Except PatchError (Option (List Char)) :=
  if holds markV31 text then do
    validateV31 py text
    return none
  else if holds markV3 text then do
    verified py (← upgradeV3ToV31 text)
  else if holds markV2 text then do
    verified py (← upgradeV2ToV31 text)
  else if holds mark text then do
    verified py (← upgradeV2ToV31 (← upgradeV1ToV2 text))
  else do
    verified py (← installPristine text)

def main (py : Python) : Option File → Except PatchError Unit × Option File :=
  rewrite (patch py)

theorem verified_ok {py : Python} {text : List Char} {written : Option (List Char)}
    (done : verified py text = .ok written) :
    validateV31 py text = .ok () ∧ written = some text := by
  obtain ⟨_, valid, done⟩ := bind_ok done
  obtain ⟨_, _, done⟩ := bind_ok done
  exact ⟨valid, (Except.ok.inj done).symm⟩

theorem patch_ok {py : Python} {text : List Char} {written : Option (List Char)}
    (done : patch py text = .ok written) : validateV31 py (written.getD text) = .ok () := by
  have upgraded : ∀ {x : Except PatchError (List Char)}, x >>= verified py = .ok written →
      validateV31 py (written.getD text) = .ok () := by
    intro x done
    obtain ⟨out, _, done⟩ := bind_ok done
    obtain ⟨valid, rfl⟩ := verified_ok done
    exact valid
  rw [patch] at done
  split at done
  · obtain ⟨_, valid, done⟩ := bind_ok done
    cases done
    exact valid
  · split at done
    · exact upgraded done
    · split at done
      · exact upgraded done
      · split at done
        · obtain ⟨_, _, done⟩ := bind_ok done
          exact upgraded done
        · exact upgraded done

theorem validateV31_helper {py : Python} {text : List Char} {u : Unit}
    (valid : validateV31 py text = .ok u) : count helperV31Only text = 1 :=
  expectOne_ok (bind_ok valid).choose_spec.1

theorem validateV31_fails (py : Python) {text : List Char} (lacking : count runningNew text ≠ 1) :
    ∃ e, validateV31 py text = .error e := by
  cases checked : validateV31 py text with
  | error e => exact ⟨e, rfl⟩
  | ok u =>
    obtain ⟨_, _, rest⟩ := bind_ok checked
    obtain ⟨_, _, rest⟩ := bind_ok rest
    obtain ⟨_, gate, _⟩ := bind_ok rest
    exact absurd (expectOne_ok gate) lacking

theorem markV31_in_helper : markV31 <:+: helperV31Only := by
  have line : ∃ l ∈ helperV31Lines, (find markV31 l).isSome = true := by decide +kernel
  obtain ⟨l, member, marked⟩ := line
  exact ((find_isSome_iff markV31 l).mp marked).trans (List.infix_of_mem_flatten member)

end Installers.DecodeFloor
