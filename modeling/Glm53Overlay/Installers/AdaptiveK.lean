import Glm53Overlay.Installers.TextPatch

/-!
The adaptive draft length's patcher: the scheduler source first, then the graph utilities. The
scheduler is written before the other file is looked at.
-/
namespace Installers.AdaptiveK
open TextFile TextSearch TextEdit TextPatch

def mark : List Char := verbatim "# [glm53-adaptive-k]" _ rfl

def draftHook : List Char := verbatim "_GLM53_ADAPTIVE_K.batch_k(" _ rfl

/-- The policy class up to its reload, then its step methods. -/
def schedHelperConfig : List (List Char) := [
  verbatim "\n" _ rfl,
  verbatim "class _Glm53AdaptiveK:  # [glm53-adaptive-k]\n" _ rfl,
  verbatim "    \"\"\"CPU-only EMA policy for the *verified* draft prefix length.\n" _ rfl,
  verbatim "\n" _ rfl,
  verbatim "    ``batch_k`` exists for unit tests and must not be wired into\n" _ rfl,
  verbatim "    ``num_spec_tokens_to_schedule`` on this image (that field sizes the\n" _ rfl,
  verbatim "    trained eight-row DFlash draft).\n" _ rfl,
  verbatim "    \"\"\"\n" _ rfl,
  verbatim "\n" _ rfl,
  verbatim "    def __init__(self) -> None:\n" _ rfl,
  verbatim "        mode = os.environ.get(\"GLM53_ADAPTIVE_K\", \"off\").strip().lower()\n" _ rfl,
  verbatim "        capture = os.environ.get(\"GLM53_ADAPTIVE_K_CAPTURE\", " _ rfl,
  verbatim "\"0\").strip().lower()\n" _ rfl,
  verbatim "        self.enabled = mode in (\"ema\", \"on\", \"1\")\n" _ rfl,
  verbatim "        self.graphs_enabled = self.enabled or capture in (\"1\", \"on\", " _ rfl,
  verbatim "\"true\", \"yes\")\n" _ rfl,
  verbatim "        self.alpha = float(os.environ.get(\"GLM53_ADAPTIVE_K_ALPHA\", " _ rfl,
  verbatim "\"0.25\"))\n" _ rfl,
  verbatim "        self.margin = float(os.environ.get(\"GLM53_ADAPTIVE_K_MARGIN\", " _ rfl,
  verbatim "\"1.0\"))\n" _ rfl,
  verbatim "        self.min_steps = int(os.environ.get(\"GLM53_ADAPTIVE_K_MIN_STEPS\", " _ rfl,
  verbatim "\"4\"))\n" _ rfl,
  verbatim "        raw = os.environ.get(\"GLM53_ADAPTIVE_K_SET\", \"2,4,7\")\n" _ rfl,
  verbatim "        self.k_set = sorted(\x7bint(x) for x in raw.split(\",\") if " _ rfl,
  verbatim "x.strip()\x7d)\n" _ rfl,
  verbatim "        self.saturate = os.environ.get(\"GLM53_ADAPTIVE_K_SATURATE\", " _ rfl,
  verbatim "\"max\").strip().lower()\n" _ rfl,
  verbatim "        self.hist_every = int(os.environ.get(\"GLM53_ADAPTIVE_K_HIST\", " _ rfl,
  verbatim "\"200\"))\n" _ rfl,
  verbatim "        self.batch_margin = os.environ.get(\n" _ rfl,
  verbatim "            \"GLM53_ADAPTIVE_K_BATCH_MARGIN\", \"0\"\n" _ rfl,
  verbatim "        ).strip().lower() in (\"1\", \"on\", \"true\", \"yes\")\n" _ rfl,
  verbatim "        self.pos_trim = os.environ.get(\n" _ rfl,
  verbatim "            \"GLM53_ADAPTIVE_K_POS_TRIM\", \"0\"\n" _ rfl,
  verbatim "        ).strip().lower() in (\"1\", \"on\", \"true\", \"yes\")\n" _ rfl,
  verbatim "        self.state: dict[str, list[float]] = \x7b\x7d  # req_id -> [ema, " _ rfl,
  verbatim "observed_steps]\n" _ rfl,
  verbatim "        self.hist: dict[int, int] = \x7b\x7d\n" _ rfl,
  verbatim "        self.steps = 0\n" _ rfl,
  verbatim "        self.k_max = max(self.k_set) if self.k_set else 0\n" _ rfl,
  verbatim "        self.boot_set = list(self.k_set)\n" _ rfl,
  verbatim "        self.boot_enabled = self.enabled\n" _ rfl,
  verbatim "        self.boot_graphs = self.graphs_enabled\n" _ rfl,
  verbatim "        self.file = os.environ.get(\n" _ rfl,
  verbatim "            \"GLM53_ADAPTIVE_K_FILE\", " _ rfl,
  verbatim "\"/root/.cache/vllm/glm53_adaptive_k.json\"\n" _ rfl,
  verbatim "        )\n" _ rfl,
  verbatim "        self.file_mtime = None\n" _ rfl,
  verbatim "        self._reload()\n" _ rfl,
  verbatim "        if self.enabled:\n" _ rfl,
  verbatim "            print(\n" _ rfl,
  verbatim "                f\"[glm53-adaptive-k] enabled set=\x7bself.k_set\x7d " _ rfl,
  verbatim "alpha=\x7bself.alpha\x7d \"\n" _ rfl,
  verbatim "                f\"margin=\x7bself.margin\x7d " _ rfl,
  verbatim "min_steps=\x7bself.min_steps\x7d \"\n" _ rfl,
  verbatim "                f\"saturate=\x7bself.saturate\x7d " _ rfl,
  verbatim "graphs=\x7bself.graphs_enabled\x7d \"\n" _ rfl,
  verbatim "                f\"batch_margin=\x7bint(self.batch_margin)\x7d \"\n" _ rfl,
  verbatim "                f\"pos_trim=\x7bint(self.pos_trim)\x7d\",\n" _ rfl,
  verbatim "                flush=True,\n" _ rfl,
  verbatim "            )\n" _ rfl,
  verbatim "        elif self.graphs_enabled:\n" _ rfl,
  verbatim "            print(\n" _ rfl,
  verbatim "                f\"[glm53-adaptive-k] capture-only graphs " _ rfl,
  verbatim "set=\x7bself.k_set\x7d \"\n" _ rfl,
  verbatim "                \"(policy off)\",\n" _ rfl,
  verbatim "                flush=True,\n" _ rfl,
  verbatim "            )\n" _ rfl,
  verbatim "\n" _ rfl,
  verbatim "    def _reload(self) -> None:\n" _ rfl,
  verbatim "        if not self.boot_enabled:\n" _ rfl,
  verbatim "            return\n" _ rfl,
  verbatim "        try:\n" _ rfl,
  verbatim "            mtime = os.stat(self.file).st_mtime\n" _ rfl,
  verbatim "        except OSError:\n" _ rfl,
  verbatim "            mtime = None\n" _ rfl,
  verbatim "        if mtime == self.file_mtime:\n" _ rfl,
  verbatim "            return\n" _ rfl,
  verbatim "        self.file_mtime = mtime\n" _ rfl,
  verbatim "        if mtime is None:\n" _ rfl,
  verbatim "            return\n" _ rfl,
  verbatim "        try:\n" _ rfl,
  verbatim "            import json\n" _ rfl,
  verbatim "\n" _ rfl,
  verbatim "            with open(self.file) as fh:\n" _ rfl,
  verbatim "                cfg = json.load(fh)\n" _ rfl,
  verbatim "            mode = str(cfg.get(\"mode\", \"ema\")).strip().lower()\n" _ rfl,
  verbatim "            self.enabled = mode in (\"ema\", \"on\", \"1\")\n" _ rfl,
  verbatim "            self.alpha = float(cfg.get(\"alpha\", self.alpha))\n" _ rfl,
  verbatim "            self.margin = float(cfg.get(\"margin\", self.margin))\n" _ rfl,
  verbatim "            self.min_steps = int(cfg.get(\"min_steps\", self.min_steps))\n" _ rfl,
  verbatim "            self.saturate = str(cfg.get(\"saturate\", " _ rfl,
  verbatim "self.saturate)).strip().lower()\n" _ rfl,
  verbatim "            if \"set\" in cfg:\n" _ rfl,
  verbatim "                want = \x7b\n" _ rfl,
  verbatim "                    int(x)\n" _ rfl,
  verbatim "                    for x in (\n" _ rfl,
  verbatim "                        cfg[\"set\"]\n" _ rfl,
  verbatim "                        if isinstance(cfg[\"set\"], list)\n" _ rfl,
  verbatim "                        else str(cfg[\"set\"]).split(\",\")\n" _ rfl,
  verbatim "                    )\n" _ rfl,
  verbatim "                \x7d\n" _ rfl,
  verbatim "                self.k_set = sorted(want & set(self.boot_set)) or " _ rfl,
  verbatim "list(self.boot_set)\n" _ rfl,
  verbatim "            self.state.clear()\n" _ rfl,
  verbatim "            self.hist.clear()\n" _ rfl,
  verbatim "            print(\n" _ rfl,
  verbatim "                f\"[glm53-adaptive-k] reloaded \x7bself.file\x7d: " _ rfl,
  verbatim "enabled=\x7bself.enabled\x7d \"\n" _ rfl,
  verbatim "                f\"set=\x7bself.k_set\x7d alpha=\x7bself.alpha\x7d " _ rfl,
  verbatim "margin=\x7bself.margin\x7d \"\n" _ rfl,
  verbatim "                f\"min_steps=\x7bself.min_steps\x7d " _ rfl,
  verbatim "saturate=\x7bself.saturate\x7d \"\n" _ rfl,
  verbatim "                f\"batch_margin=\x7bint(self.batch_margin)\x7d \"\n" _ rfl,
  verbatim "                f\"pos_trim=\x7bint(self.pos_trim)\x7d\",\n" _ rfl,
  verbatim "                flush=True,\n" _ rfl,
  verbatim "            )\n" _ rfl,
  verbatim "        except Exception as exc:  # noqa: BLE001\n" _ rfl,
  verbatim "            print(f\"[glm53-adaptive-k] override file ignored: " _ rfl,
  verbatim "\x7bexc!r\x7d\", flush=True)\n" _ rfl,
  verbatim "\n" _ rfl]

def schedHelperSteps : List (List Char) := [
  verbatim "    def observe(self, req_id: str, num_draft: int, num_accepted: int) -> " _ rfl,
  verbatim "None:\n" _ rfl,
  verbatim "        if not self.enabled or num_draft <= 0:\n" _ rfl,
  verbatim "            return\n" _ rfl,
  verbatim "        if num_accepted >= num_draft and self.saturate != \"n\":\n" _ rfl,
  verbatim "            obs = float(max(self.k_max, num_draft))\n" _ rfl,
  verbatim "        else:\n" _ rfl,
  verbatim "            obs = float(num_accepted)\n" _ rfl,
  verbatim "        st = self.state.get(req_id)\n" _ rfl,
  verbatim "        if st is None:\n" _ rfl,
  verbatim "            self.state[req_id] = [\n" _ rfl,
  verbatim "                obs * self.alpha + float(self.k_max) * (1.0 - self.alpha),\n" _ rfl,
  verbatim "                1.0,\n" _ rfl,
  verbatim "            ]\n" _ rfl,
  verbatim "        else:\n" _ rfl,
  verbatim "            st[0] = obs * self.alpha + st[0] * (1.0 - self.alpha)\n" _ rfl,
  verbatim "            st[1] += 1.0\n" _ rfl,
  verbatim "\n" _ rfl,
  verbatim "    def choose(self, req_id: str, k: int, structured: bool):\n" _ rfl,
  verbatim "        \"\"\"Draft length for one request, or None when it must stay at full " _ rfl,
  verbatim "k.\"\"\"\n" _ rfl,
  verbatim "        if not self.enabled or structured or k <= 0:\n" _ rfl,
  verbatim "            return None\n" _ rfl,
  verbatim "        st = self.state.get(req_id)\n" _ rfl,
  verbatim "        if st is None or st[1] < self.min_steps:\n" _ rfl,
  verbatim "            return None\n" _ rfl,
  verbatim "        import math\n" _ rfl,
  verbatim "\n" _ rfl,
  verbatim "        target = int(math.ceil(st[0] + self.margin))\n" _ rfl,
  verbatim "        cands = [v for v in self.k_set if v <= min(target, k)]\n" _ rfl,
  verbatim "        n = max(cands) if cands else min(self.k_set)\n" _ rfl,
  verbatim "        return max(1, min(n, k))\n" _ rfl,
  verbatim "\n" _ rfl,
  verbatim "    def apply(self, reqs, live_ids) -> None:\n" _ rfl,
  verbatim "        \"\"\"Trim spec_token_ids to a uniform verified prefix.\n" _ rfl,
  verbatim "\n" _ rfl,
  verbatim "        All-observed batches take the min choice. Pinned batches stay at\n" _ rfl,
  verbatim "        full k, except when the batch margin fires (see _margin_width):\n" _ rfl,
  verbatim "        then the uniform row is the trimmed width, so one warmup-pinned\n" _ rfl,
  verbatim "        request does not hold the target verify at k=7. Trimming only\n" _ rfl,
  verbatim "        drops trailing (rejected or never-committed) rows; every\n" _ rfl,
  verbatim "        request's accepted prefix is untouched. The concurrency-gated\n" _ rfl,
  verbatim "        pos trim (see _pos_width) additionally clamps the row to the\n" _ rfl,
  verbatim "        ladder floor, but only when 2+ observed requests share the\n" _ rfl,
  verbatim "        batch; at C1 it is a no-op.\n" _ rfl,
  verbatim "        \"\"\"\n" _ rfl,
  verbatim "        if self.steps % 50 == 0:\n" _ rfl,
  verbatim "            self._reload()\n" _ rfl,
  verbatim "        if not self.enabled or not reqs:\n" _ rfl,
  verbatim "            self.steps += 1\n" _ rfl,
  verbatim "            return\n" _ rfl,
  verbatim "        picks = [\n" _ rfl,
  verbatim "            self.choose(r.request_id, len(r.spec_token_ids), s) for r, s in " _ rfl,
  verbatim "reqs\n" _ rfl,
  verbatim "        ]\n" _ rfl,
  verbatim "        if all(v is not None for v in picks):\n" _ rfl,
  verbatim "            n = min(picks)\n" _ rfl,
  verbatim "            gated = self._pos_width(reqs, picks, n)\n" _ rfl,
  verbatim "            if gated is not None:\n" _ rfl,
  verbatim "                n = gated\n" _ rfl,
  verbatim "        else:\n" _ rfl,
  verbatim "            n = self._margin_width(reqs, picks)\n" _ rfl,
  verbatim "            if n is None:\n" _ rfl,
  verbatim "                n = max(len(r.spec_token_ids) for r, _ in reqs)\n" _ rfl,
  verbatim "        for r, _ in reqs:\n" _ rfl,
  verbatim "            if len(r.spec_token_ids) > n:\n" _ rfl,
  verbatim "                r.spec_token_ids = r.spec_token_ids[:n]\n" _ rfl,
  verbatim "        self._count(n, live_ids)\n" _ rfl,
  verbatim "\n" _ rfl,
  verbatim "    def _margin_width(self, reqs, picks) -> int | None:\n" _ rfl,
  verbatim "        \"\"\"Trimmed uniform width when the batch margin fires, else None.\n" _ rfl,
  verbatim "\n" _ rfl,
  verbatim "        Fires only when the margin knob is on and no request is\n" _ rfl,
  verbatim "        structured: a structured pin keeps the batch at full k because\n" _ rfl,
  verbatim "        its rows passed grammar validation. Policy-warmup pins\n" _ rfl,
  verbatim "        (unseen, or under MIN_STEPS) hold only droppable\n" _ rfl,
  verbatim "        tail, so the batch takes the min of the known choices. None\n" _ rfl,
  verbatim "        when nothing is known (all requests unseen) — nothing to trim\n" _ rfl,
  verbatim "        toward. Shorter rows are left alone. No draft execution changes.\n" _ rfl,
  verbatim "        \"\"\"\n" _ rfl,
  verbatim "        if not self.batch_margin or any(s for _, s in reqs):\n" _ rfl,
  verbatim "            return None\n" _ rfl,
  verbatim "        known = [v for v in picks if v is not None]\n" _ rfl,
  verbatim "        return min(known) if known else None\n" _ rfl,
  verbatim "\n" _ rfl,
  verbatim "    def _pos_width(self, reqs, picks, n: int) -> int | None:\n" _ rfl,
  verbatim "        \"\"\"Concurrency-gated clamp of the uniform row to the ladder " _ rfl,
  verbatim "floor.\n" _ rfl,
  verbatim "\n" _ rfl,
  verbatim "        Fires only when the pos-trim knob is on, the batch-margin knob is\n" _ rfl,
  verbatim "        on (both or neither: a single verify-width policy), no request is\n" _ rfl,
  verbatim "        structured, 2+ requests share the batch, and every request in the\n" _ rfl,
  verbatim "        batch already has a known EMA choice (all-observed branch; any\n" _ rfl,
  verbatim "        warmup pin leaves the batch-margin width untouched). Then the\n" _ rfl,
  verbatim "        uniform row is min(n, ladder floor) where the ladder floor is\n" _ rfl,
  verbatim "        min(k_set). C1 batches always return None (no-op), so lone\n" _ rfl,
  verbatim "        requests keep the warm EMA choice. Shorter rows are left alone.\n" _ rfl,
  verbatim "        No draft execution changes.\n" _ rfl,
  verbatim "        \"\"\"\n" _ rfl,
  verbatim "        if not (self.pos_trim and self.batch_margin):\n" _ rfl,
  verbatim "            return None\n" _ rfl,
  verbatim "        if any(s for _, s in reqs):\n" _ rfl,
  verbatim "            return None\n" _ rfl,
  verbatim "        if len(reqs) < 2:\n" _ rfl,
  verbatim "            return None\n" _ rfl,
  verbatim "        if any(v is None for v in picks):\n" _ rfl,
  verbatim "            return None\n" _ rfl,
  verbatim "        floor = min(self.k_set) if self.k_set else n\n" _ rfl,
  verbatim "        return min(n, floor) if floor < n else None\n" _ rfl,
  verbatim "\n" _ rfl,
  verbatim "    def batch_k(self, k: int, reqs, live_ids) -> int:\n" _ rfl,
  verbatim "        \"\"\"Policy-only helper. Do not wire this into the drafter " _ rfl,
  verbatim "count.\"\"\"\n" _ rfl,
  verbatim "        if self.steps % 50 == 0:\n" _ rfl,
  verbatim "            self._reload()\n" _ rfl,
  verbatim "        if not self.enabled or k <= 0:\n" _ rfl,
  verbatim "            self.steps += 1\n" _ rfl,
  verbatim "            return k\n" _ rfl,
  verbatim "        ns = []\n" _ rfl,
  verbatim "        for r in reqs:\n" _ rfl,
  verbatim "            if r is None or getattr(r, \"is_prefill_chunk\", False):\n" _ rfl,
  verbatim "                continue\n" _ rfl,
  verbatim "            n_i = self.choose(\n" _ rfl,
  verbatim "                r.request_id, k, bool(getattr(r, \"use_structured_output\", " _ rfl,
  verbatim "False))\n" _ rfl,
  verbatim "            )\n" _ rfl,
  verbatim "            if n_i is None:\n" _ rfl,
  verbatim "                ns = None\n" _ rfl,
  verbatim "                break\n" _ rfl,
  verbatim "            ns.append(n_i)\n" _ rfl,
  verbatim "        n = k if not ns else min(ns)\n" _ rfl,
  verbatim "        self._count(n, live_ids)\n" _ rfl,
  verbatim "        return n\n" _ rfl,
  verbatim "\n" _ rfl,
  verbatim "    def _count(self, n: int, live_ids) -> None:\n" _ rfl,
  verbatim "        self.hist[n] = self.hist.get(n, 0) + 1\n" _ rfl,
  verbatim "        self.steps += 1\n" _ rfl,
  verbatim "        if self.hist_every > 0 and self.steps % self.hist_every == 0:\n" _ rfl,
  verbatim "            total = sum(self.hist.values())\n" _ rfl,
  verbatim "            parts = \" \".join(f\"\x7bk\x7d:\x7bv\x7d\" for k, v in " _ rfl,
  verbatim "sorted(self.hist.items()))\n" _ rfl,
  verbatim "            emas = \" \".join(\n" _ rfl,
  verbatim "                f\"\x7brid[:8]\x7d=\x7bst[0]:.2f\x7d/\x7bint(st[1])\x7d\"\n" _ rfl,
  verbatim "                for rid, st in list(self.state.items())[:4]\n" _ rfl,
  verbatim "            )\n" _ rfl,
  verbatim "            print(\n" _ rfl,
  verbatim "                f\"[glm53-adaptive-k] step \x7bself.steps\x7d chosen-length " _ rfl,
  verbatim "hist \"\n" _ rfl,
  verbatim "                f\"(\x7btotal\x7d): \x7bparts\x7d | ema \x7bemas\x7d\",\n" _ rfl,
  verbatim "                flush=True,\n" _ rfl,
  verbatim "            )\n" _ rfl,
  verbatim "            self.state = \x7brid: st for rid, st in self.state.items() if rid " _ rfl,
  verbatim "in live_ids\x7d\n" _ rfl,
  verbatim "\n" _ rfl,
  verbatim "\n" _ rfl,
  verbatim "_GLM53_ADAPTIVE_K = _Glm53AdaptiveK()  # [glm53-adaptive-k]\n" _ rfl,
  verbatim "\n" _ rfl,
  verbatim "\n" _ rfl]

def schedHelperLines : List (List Char) := schedHelperConfig ++ schedHelperSteps

def schedHelper : List Char := schedHelperLines.flatten

def obsOld : List Char := List.flatten [
  verbatim "                num_draft_tokens = len(scheduled_spec_token_ids)\n" _ rfl,
  verbatim "                num_sampled = self.num_sampled_tokens_per_step\n" _ rfl,
  verbatim "                num_accepted = max(len(generated_token_ids) - num_sampled, " _ rfl,
  verbatim "0)\n" _ rfl]

def obsNew : List Char := List.flatten [
  verbatim "                num_draft_tokens = len(scheduled_spec_token_ids)\n" _ rfl,
  verbatim "                num_sampled = self.num_sampled_tokens_per_step\n" _ rfl,
  verbatim "                num_accepted = max(len(generated_token_ids) - num_sampled, " _ rfl,
  verbatim "0)\n" _ rfl,
  verbatim "                _GLM53_ADAPTIVE_K.observe(req_id, num_draft_tokens, " _ rfl,
  verbatim "num_accepted)  # [glm53-adaptive-k]\n" _ rfl]

def updOld : List Char := List.flatten [
  verbatim "    def update_draft_token_ids(self, draft_token_ids: DraftTokenIds) -> " _ rfl,
  verbatim "None:\n" _ rfl,
  verbatim "        for req_id, spec_token_ids in zip(\n" _ rfl,
  verbatim "            draft_token_ids.req_ids,\n" _ rfl,
  verbatim "            draft_token_ids.draft_token_ids,\n" _ rfl,
  verbatim "        ):\n" _ rfl,
  verbatim "            request = self.requests.get(req_id)\n" _ rfl,
  verbatim "            if request is None or request.is_finished():\n" _ rfl,
  verbatim "                # The request may have been finished. Skip.\n" _ rfl,
  verbatim "                continue\n" _ rfl,
  verbatim "\n" _ rfl,
  verbatim "            if request.is_prefill_chunk:\n" _ rfl,
  verbatim "                # Ignore draft tokens for prefill chunks.\n" _ rfl,
  verbatim "                if request.spec_token_ids:\n" _ rfl,
  verbatim "                    request.spec_token_ids = []\n" _ rfl,
  verbatim "                continue\n" _ rfl,
  verbatim "\n" _ rfl,
  verbatim "            # Add newly generated spec token ids to the request.\n" _ rfl,
  verbatim "            if self.structured_output_manager.should_advance(request):\n" _ rfl,
  verbatim "                metadata = request.structured_output_request\n" _ rfl,
  verbatim "                spec_token_ids = " _ rfl,
  verbatim "metadata.grammar.validate_tokens(spec_token_ids)  # type: ignore[union-attr]\n" _ rfl,
  verbatim "            request.spec_token_ids = spec_token_ids\n" _ rfl]

def updNew : List Char := List.flatten [
  verbatim "    def update_draft_token_ids(self, draft_token_ids: DraftTokenIds) -> " _ rfl,
  verbatim "None:\n" _ rfl,
  verbatim "        _ak_reqs = []  # [glm53-adaptive-k]\n" _ rfl,
  verbatim "        for req_id, spec_token_ids in zip(\n" _ rfl,
  verbatim "            draft_token_ids.req_ids,\n" _ rfl,
  verbatim "            draft_token_ids.draft_token_ids,\n" _ rfl,
  verbatim "        ):\n" _ rfl,
  verbatim "            request = self.requests.get(req_id)\n" _ rfl,
  verbatim "            if request is None or request.is_finished():\n" _ rfl,
  verbatim "                # The request may have been finished. Skip.\n" _ rfl,
  verbatim "                continue\n" _ rfl,
  verbatim "\n" _ rfl,
  verbatim "            if request.is_prefill_chunk:\n" _ rfl,
  verbatim "                # Ignore draft tokens for prefill chunks.\n" _ rfl,
  verbatim "                if request.spec_token_ids:\n" _ rfl,
  verbatim "                    request.spec_token_ids = []\n" _ rfl,
  verbatim "                continue\n" _ rfl,
  verbatim "\n" _ rfl,
  verbatim "            # Add newly generated spec token ids to the request.\n" _ rfl,
  verbatim "            _ak_structured = " _ rfl,
  verbatim "self.structured_output_manager.should_advance(request)  # [glm53-adaptive-k]\n" _ rfl,
  verbatim "            if _ak_structured:\n" _ rfl,
  verbatim "                metadata = request.structured_output_request\n" _ rfl,
  verbatim "                spec_token_ids = " _ rfl,
  verbatim "metadata.grammar.validate_tokens(spec_token_ids)  # type: ignore[union-attr]\n" _ rfl,
  verbatim "            request.spec_token_ids = spec_token_ids\n" _ rfl,
  verbatim "            if _GLM53_ADAPTIVE_K.enabled and spec_token_ids:  # " _ rfl,
  verbatim "[glm53-adaptive-k]\n" _ rfl,
  verbatim "                _ak_reqs.append((request, _ak_structured))\n" _ rfl,
  verbatim "        if _ak_reqs:  # [glm53-adaptive-k]\n" _ rfl,
  verbatim "            _GLM53_ADAPTIVE_K.apply(_ak_reqs, self.requests)\n" _ rfl]

def schedKOld : List Char := List.flatten [
  verbatim "        # Dynamic speculative decoding: compute optimal K\n" _ rfl,
  verbatim "        num_spec_tokens_to_schedule = self.num_spec_tokens\n" _ rfl,
  verbatim "        if self.dynamic_sd_lookup is not None and len(num_scheduled_tokens) > " _ rfl,
  verbatim "0:\n" _ rfl,
  verbatim "            num_spec_tokens_to_schedule = self.dynamic_sd_lookup[\n" _ rfl,
  verbatim "                len(num_scheduled_tokens)\n" _ rfl,
  verbatim "            ]\n" _ rfl]

def cgHelper : List Char := List.flatten [
  verbatim "\n" _ rfl,
  verbatim "def _glm53_adaptive_k_query_lens(lens, decode_query_len):  # " _ rfl,
  verbatim "[glm53-adaptive-k]\n" _ rfl,
  verbatim "    \"\"\"Extra *target* uniform decode graph lengths (k+1 for 2 and 4).\n" _ rfl,
  verbatim "\n" _ rfl,
  verbatim "    Drafter graphs stay native query_len=8. Enable when the EMA policy is\n" _ rfl,
  verbatim "    on or when GLM53_ADAPTIVE_K_CAPTURE=1 (B0 capture-only control).\n" _ rfl,
  verbatim "    \"\"\"\n" _ rfl,
  verbatim "    import os\n" _ rfl,
  verbatim "\n" _ rfl,
  verbatim "    mode = os.environ.get(\"GLM53_ADAPTIVE_K\", \"off\").strip().lower()\n" _ rfl,
  verbatim "    capture = os.environ.get(\"GLM53_ADAPTIVE_K_CAPTURE\", " _ rfl,
  verbatim "\"0\").strip().lower()\n" _ rfl,
  verbatim "    graphs = mode in (\"ema\", \"on\", \"1\") or capture in (\"1\", \"on\", " _ rfl,
  verbatim "\"true\", \"yes\")\n" _ rfl,
  verbatim "    if not graphs:\n" _ rfl,
  verbatim "        return lens\n" _ rfl,
  verbatim "    raw = os.environ.get(\"GLM53_ADAPTIVE_K_SET\", \"2,4,7\")\n" _ rfl,
  verbatim "    ks = \x7bint(x) for x in raw.split(\",\") if x.strip()\x7d\n" _ rfl,
  verbatim "    extra = \x7bk + 1 for k in ks if 0 < k + 1 <= decode_query_len\x7d\n" _ rfl,
  verbatim "    out = sorted(set(lens) | extra | \x7bdecode_query_len\x7d)\n" _ rfl,
  verbatim "    print(f\"[glm53-adaptive-k] uniform decode graph query lens: " _ rfl,
  verbatim "\x7bout\x7d\", flush=True)\n" _ rfl,
  verbatim "    return out\n" _ rfl,
  verbatim "\n" _ rfl,
  verbatim "\n" _ rfl]

def cgAnchor : List Char := List.flatten [
  verbatim "@dataclass(frozen=True)\n" _ rfl,
  verbatim "class BatchExecutionDescriptor:\n" _ rfl]

def cgOld : List Char := List.flatten [
  verbatim "        else:\n" _ rfl,
  verbatim "            decode_query_lens = [self.decode_query_len]\n" _ rfl]

def cgNew : List Char := List.flatten [
  verbatim "        else:\n" _ rfl,
  verbatim "            decode_query_lens = [self.decode_query_len]\n" _ rfl,
  verbatim "        decode_query_lens = _glm53_adaptive_k_query_lens(decode_query_lens, " _ rfl,
  verbatim "self.decode_query_len)  # [glm53-adaptive-k]\n" _ rfl]

def policyClass : List Char := verbatim "def _Glm53AdaptiveK" _ rfl

def policyName : List Char := verbatim "_GLM53_ADAPTIVE_K" _ rfl

def observeCall : List Char := verbatim "_GLM53_ADAPTIVE_K.observe(" _ rfl

def applyCall : List Char := verbatim "_GLM53_ADAPTIVE_K.apply(" _ rfl

def queryLens : List Char := verbatim "_glm53_adaptive_k_query_lens" _ rfl

def queryLensCall : List Char := verbatim "_glm53_adaptive_k_query_lens(decode_query_lens" _ rfl

def assertNoDraftHook (text : List Char) : Except PatchError Unit := do
  ensure (!holds draftHook text) (.refused ("refused draft-facing _GLM53_ADAPTIVE_K.batch_k( " ++
    "wiring into num_spec_tokens_to_schedule (parked DFlash2 eight-row contract)"))
  ensure (count schedKOld text = 1) (.refused
    "num_spec_tokens_to_schedule anchor drifted; refusing to guess the drafter hook")

def validateScheduler (py : Python) (text : List Char) : Except PatchError Unit := do
  ensure (py.parses text) .syntaxError
  ensure (4 ≤ count mark text) (.incomplete "adaptive-k marker" (count mark text))
  ensure (count schedHelper text = 1) (.refused "helper missing, duplicated, or drifted")
  ensure (holds observeCall text) (.refused "observe hook missing")
  ensure (holds applyCall text) (.refused "update_draft_token_ids apply hook missing")
  assertNoDraftHook text
  ensure (osImported text) (.refused "helper requires a top-level plain import os")

def patchScheduler (py : Python) (text : List Char) : Except PatchError (Option (List Char)) :=
  if holds mark text then do
    validateScheduler py text
    return none
  else do
    ensure (!holds policyClass text && !holds policyName text)
      (.refused "partial or conflicting adaptive-k install")
    assertNoDraftHook text
    ensure (count obsOld text = 1) (.notUnique "observe target" (count obsOld text))
    ensure (count updOld text = 1) (.notUnique "update_draft_token_ids target" (count updOld text))
    ensure (count needle text = 1) (.refused "helper insert point not unique")
    ensure (osImported text) (.refused
      "missing top-level import os (decode-floor / align-floor must install first)")
    let text := replaceFirst needle (schedHelper ++ needle) text
    let text ← replaceOnce "observe" obsOld obsNew text
    let text ← replaceOnce "update_draft_token_ids" updOld updNew text
    validateScheduler py text
    return some text

def validateCudagraph (py : Python) (text : List Char) : Except PatchError Unit := do
  ensure (py.parses text) .syntaxError
  ensure (2 ≤ count mark text) (.refused "adaptive-k graph marker incomplete")
  ensure (count cgHelper text = 1) (.refused "graph helper missing, duplicated, or drifted")
  ensure (holds queryLensCall text) (.refused "decode_query_lens hook missing")

def patchCudagraphUtils (py : Python) (text : List Char) :
    Except PatchError (Option (List Char)) :=
  if holds mark text then do
    validateCudagraph py text
    return none
  else do
    ensure (!holds queryLens text) (.refused "partial or conflicting adaptive-k graph install")
    ensure (count cgAnchor text = 1) (.refused "helper insert point not unique")
    ensure (count cgOld text = 1) (.refused "decode_query_lens target not unique")
    let text := replaceFirst cgAnchor (cgHelper ++ cgAnchor) text
    let text ← replaceOnce "decode_query_lens" cgOld cgNew text
    validateCudagraph py text
    return some text

def replaced : List (List Char) := [needle, obsOld, updOld]

theorem patchScheduler_keeps {py : Python} {p text out : List Char}
    (apart : ∀ old ∈ replaced, clear false p [] old [] = true)
    (done : patchScheduler py text = .ok (some out)) (present : p <:+: text) : p <:+: out := by
  rw [patchScheduler] at done
  split at done
  · obtain ⟨_, _, done⟩ := bind_ok done
    cases done
  · obtain ⟨_, _, done⟩ := bind_ok done
    obtain ⟨_, _, done⟩ := bind_ok done
    obtain ⟨_, _, done⟩ := bind_ok done
    obtain ⟨_, _, done⟩ := bind_ok done
    obtain ⟨_, _, done⟩ := bind_ok done
    obtain ⟨_, _, done⟩ := bind_ok done
    obtain ⟨observed, first, done⟩ := bind_ok done
    obtain ⟨updated, second, done⟩ := bind_ok done
    obtain ⟨_, _, done⟩ := bind_ok done
    cases done
    have present := present_replaceFirst (schedHelper ++ needle)
      (apart needle (by simp [replaced])) present
    have present := present_replaceOnce present (apart obsOld (by simp [replaced])) first
    exact present_replaceOnce present (apart updOld (by simp [replaced])) second

end Installers.AdaptiveK
