import Glm53Overlay.Library.StagedInstall
import Glm53Overlay.Library.PackedText
import Glm53Overlay.Library.TextFile

/-!
The installer of the per-request no-store flag: three files, checked and edited in memory
before the first is written. A file without the marker is edited; one with it must carry every
snippet exactly once. Whether Python parses a text is the parameter `parses`; no write fails.
-/
namespace Installers.NoStore
open TextFile TextSearch TextEdit PackedText StagedInstall

def mark : List Char := verbatim "# [glm53-apc-no-store]" _ rfl

def spFieldOld : List Char := verbatim "    skip_reading_prefix_cache: bool | None = None\n" _ rfl

def spFieldNew : List Char := List.flatten [
  verbatim "    skip_reading_prefix_cache: bool | None = None\n" _ rfl,
  verbatim "    skip_writing_prefix_cache: bool | None = None  # [glm53-apc-no-store]\n" _ rfl,
  verbatim "    \"\"\"If True, this request's KV blocks are never inserted into the GPU\n" _ rfl,
  verbatim "    prefix cache (overlay/patch_apc_no_store.py). Lookups are unaffected: " _ rfl,
  verbatim "the\n" _ rfl,
  verbatim "    request may still read-hit. Its blocks stay unhashed, so\n" _ rfl,
  verbatim "    ``BlockPool.free_blocks`` recycles them LIFO from the front of the free\n" _ rfl,
  verbatim "    queue instead of queueing them behind -- and thereby evicting -- other\n" _ rfl,
  verbatim "    sessions' cached blocks. For one-off batch lanes whose prefix will never " _ rfl,
  verbatim "be\n" _ rfl,
  verbatim "    reused. Also reachable as ``vllm_xargs: " _ rfl,
  verbatim "\x7b\"skip_writing_prefix_cache\": 1\x7d``\n" _ rfl,
  verbatim "    (``extra_args``); accepted values are bool, int 0/1 and str \"0\"/\"1\"\n" _ rfl,
  verbatim "    (pydantic coerces a JSON boolean in ``vllm_xargs`` to 1/0).\"\"\"\n" _ rfl]

def spClassAnchor : List Char := List.flatten [
  verbatim "\n" _ rfl,
  verbatim "class SamplingParams(\n" _ rfl]

def spHelpers : List Char := List.flatten [
  verbatim "\n" _ rfl,
  verbatim "# [glm53-apc-no-store] helper-begin\n" _ rfl,
  verbatim "_GLM53_NO_STORE_KEY = \"skip_writing_prefix_cache\"\n" _ rfl,
  verbatim "_GLM53_NO_STORE_ENV = \"GLM53_APC_NO_STORE\"\n" _ rfl,
  verbatim "\n" _ rfl,
  verbatim "\n" _ rfl,
  verbatim "def _glm53_parse_no_store(value, where):  # [glm53-apc-no-store]\n" _ rfl,
  verbatim "    \"\"\"Strict 0/1 parser for the per-request no-store flag.\n" _ rfl,
  verbatim "\n" _ rfl,
  verbatim "    Accepts bool, int 0/1 and str \"0\"/\"1\" -- nothing else. " _ rfl,
  verbatim "``bool(\"0\")`` is\n" _ rfl,
  verbatim "    True, floats are ambiguous, \"yes\"/\"true\" are not part of the " _ rfl,
  verbatim "contract, so\n" _ rfl,
  verbatim "    all of those raise ValueError (an HTTP 400 through the OpenAI server's\n" _ rfl,
  verbatim "    ValueError handler when raised from SamplingParams.__post_init__).\n" _ rfl,
  verbatim "    \"\"\"\n" _ rfl,
  verbatim "    if isinstance(value, bool):\n" _ rfl,
  verbatim "        return value\n" _ rfl,
  verbatim "    if isinstance(value, int) and value in (0, 1):\n" _ rfl,
  verbatim "        return bool(value)\n" _ rfl,
  verbatim "    if isinstance(value, str) and value in (\"0\", \"1\"):\n" _ rfl,
  verbatim "        return value == \"1\"\n" _ rfl,
  verbatim "    raise ValueError(\n" _ rfl,
  verbatim "        f\"\x7bwhere\x7d must be 0 or 1 (int), \\\"0\\\"/\\\"1\\\" (str) or a " _ rfl,
  verbatim "JSON boolean; \"\n" _ rfl,
  verbatim "        f\"got \x7bvalue!r\x7d.\"\n" _ rfl,
  verbatim "    )\n" _ rfl,
  verbatim "\n" _ rfl,
  verbatim "\n" _ rfl,
  verbatim "def _glm53_no_store_env():  # [glm53-apc-no-store]\n" _ rfl,
  verbatim "    \"\"\"GLM53_APC_NO_STORE: unset -> enabled; exactly \"0\"/\"1\"; else " _ rfl,
  verbatim "fail closed.\"\"\"\n" _ rfl,
  verbatim "    import os as _os\n" _ rfl,
  verbatim "\n" _ rfl,
  verbatim "    raw = _os.environ.get(_GLM53_NO_STORE_ENV)\n" _ rfl,
  verbatim "    if raw is None:\n" _ rfl,
  verbatim "        return True\n" _ rfl,
  verbatim "    if raw in (\"0\", \"1\"):\n" _ rfl,
  verbatim "        return raw == \"1\"\n" _ rfl,
  verbatim "    raise ValueError(\n" _ rfl,
  verbatim "        f\"\x7b_GLM53_NO_STORE_ENV\x7d must be exactly 0 or 1 (got " _ rfl,
  verbatim "\x7braw!r\x7d); \"\n" _ rfl,
  verbatim "        \"unset it to keep the per-request no-store flag honoured.\"\n" _ rfl,
  verbatim "    )\n" _ rfl,
  verbatim "\n" _ rfl,
  verbatim "\n" _ rfl,
  verbatim "_GLM53_NO_STORE_ENABLED = _glm53_no_store_env()\n" _ rfl,
  verbatim "\n" _ rfl,
  verbatim "\n" _ rfl,
  verbatim "def _glm53_validate_no_store_params(params):  # [glm53-apc-no-store]\n" _ rfl,
  verbatim "    \"\"\"Reject a malformed flag where the request is still the client's.\n" _ rfl,
  verbatim "\n" _ rfl,
  verbatim "    Runs from ``SamplingParams.__post_init__`` -- i.e. in the API-server\n" _ rfl,
  verbatim "    process for /v1/chat/completions etc. (``to_sampling_params`` ->\n" _ rfl,
  verbatim "    ``from_optional``) and in the caller's process for the offline ``LLM``\n" _ rfl,
  verbatim "    API -- BEFORE the kill switch is consulted, so ``GLM53_APC_NO_STORE=0``\n" _ rfl,
  verbatim "    never turns a typo into a silent no-op. The typed field is normalised to\n" _ rfl,
  verbatim "    a bool; ``extra_args`` is left as sent.\n" _ rfl,
  verbatim "    \"\"\"\n" _ rfl,
  verbatim "    typed = params.skip_writing_prefix_cache\n" _ rfl,
  verbatim "    if typed is not None:\n" _ rfl,
  verbatim "        params.skip_writing_prefix_cache = _glm53_parse_no_store(\n" _ rfl,
  verbatim "            typed, \"SamplingParams.skip_writing_prefix_cache\"\n" _ rfl,
  verbatim "        )\n" _ rfl,
  verbatim "    extra = params.extra_args\n" _ rfl,
  verbatim "    if extra and _GLM53_NO_STORE_KEY in extra:\n" _ rfl,
  verbatim "        _glm53_parse_no_store(\n" _ rfl,
  verbatim "            extra[_GLM53_NO_STORE_KEY], " _ rfl,
  verbatim "'vllm_xargs[\"skip_writing_prefix_cache\"]'\n" _ rfl,
  verbatim "        )\n" _ rfl,
  verbatim "\n" _ rfl,
  verbatim "\n" _ rfl,
  verbatim "def _glm53_resolve_no_store(sampling_params, request_id):  # " _ rfl,
  verbatim "[glm53-apc-no-store]\n" _ rfl,
  verbatim "    \"\"\"Engine-side resolution: typed field first, then ``extra_args``.\n" _ rfl,
  verbatim "\n" _ rfl,
  verbatim "    Never raises: ``Request`` is materialised in the engine-core input " _ rfl,
  verbatim "thread\n" _ rfl,
  verbatim "    (``EngineCore.preprocess_add_request``), where an exception is not a\n" _ rfl,
  verbatim "    request-scoped error. A value that fails the strict parser here is\n" _ rfl,
  verbatim "    unreachable through the OpenAI API (``_glm53_validate_no_store_params``\n" _ rfl,
  verbatim "    already rejected it with a 400); if it happens anyway it is logged once " _ rfl,
  verbatim "and\n" _ rfl,
  verbatim "    the request stores normally. Malformed values are rejected BEFORE the " _ rfl,
  verbatim "kill\n" _ rfl,
  verbatim "    switch is applied; the switch only decides whether a valid 1 is " _ rfl,
  verbatim "honoured.\n" _ rfl,
  verbatim "    \"\"\"\n" _ rfl,
  verbatim "    if sampling_params is None:\n" _ rfl,
  verbatim "        return False\n" _ rfl,
  verbatim "    raw = getattr(sampling_params, _GLM53_NO_STORE_KEY, None)\n" _ rfl,
  verbatim "    where = \"SamplingParams.skip_writing_prefix_cache\"\n" _ rfl,
  verbatim "    if raw is None:\n" _ rfl,
  verbatim "        extra = getattr(sampling_params, \"extra_args\", None)\n" _ rfl,
  verbatim "        if not extra or _GLM53_NO_STORE_KEY not in extra:\n" _ rfl,
  verbatim "            return False\n" _ rfl,
  verbatim "        raw = extra[_GLM53_NO_STORE_KEY]\n" _ rfl,
  verbatim "        where = 'vllm_xargs[\"skip_writing_prefix_cache\"]'\n" _ rfl,
  verbatim "    try:\n" _ rfl,
  verbatim "        value = _glm53_parse_no_store(raw, where)\n" _ rfl,
  verbatim "    except ValueError as exc:\n" _ rfl,
  verbatim "        logger.warning(\n" _ rfl,
  verbatim "            \"[glm53-apc-no-store] %s -- request %s stores normally \"\n" _ rfl,
  verbatim "            \"(this value should have been rejected at the API boundary)\",\n" _ rfl,
  verbatim "            exc,\n" _ rfl,
  verbatim "            request_id,\n" _ rfl,
  verbatim "        )\n" _ rfl,
  verbatim "        return False\n" _ rfl,
  verbatim "    if not value:\n" _ rfl,
  verbatim "        return False\n" _ rfl,
  verbatim "    # ``*_once`` is keyed on (msg, args): keep the request id OUT of the " _ rfl,
  verbatim "args\n" _ rfl,
  verbatim "    # so these really are one line per process; the per-request id is a " _ rfl,
  verbatim "debug\n" _ rfl,
  verbatim "    # line.\n" _ rfl,
  verbatim "    if not _GLM53_NO_STORE_ENABLED:\n" _ rfl,
  verbatim "        logger.info_once(\n" _ rfl,
  verbatim "            \"[glm53-apc-no-store] ignoring skip_writing_prefix_cache=1: \"\n" _ rfl,
  verbatim "            \"GLM53_APC_NO_STORE=0 (first occurrence; later ones not " _ rfl,
  verbatim "logged)\"\n" _ rfl,
  verbatim "        )\n" _ rfl,
  verbatim "        logger.debug(\"[glm53-apc-no-store] ignored for request %s\", " _ rfl,
  verbatim "request_id)\n" _ rfl,
  verbatim "        return False\n" _ rfl,
  verbatim "    logger.info_once(\n" _ rfl,
  verbatim "        \"[glm53-apc-no-store] first request resolved " _ rfl,
  verbatim "skip_writing_prefix_cache=1 \"\n" _ rfl,
  verbatim "        \"(lookups unaffected, prefix-cache stores suppressed; later \"\n" _ rfl,
  verbatim "        \"occurrences not logged)\"\n" _ rfl,
  verbatim "    )\n" _ rfl,
  verbatim "    logger.debug(\"[glm53-apc-no-store] request %s is no-store\", " _ rfl,
  verbatim "request_id)\n" _ rfl,
  verbatim "    return True\n" _ rfl,
  verbatim "# [glm53-apc-no-store] helper-end\n" _ rfl,
  verbatim "\n" _ rfl]

def spPostOld : List Char := List.flatten [
  verbatim "            self.skip_reading_prefix_cache = self.prompt_logprobs is not " _ rfl,
  verbatim "None\n" _ rfl]

def spPostNew : List Char := List.flatten [
  verbatim "            self.skip_reading_prefix_cache = self.prompt_logprobs is not " _ rfl,
  verbatim "None\n" _ rfl,
  verbatim "        _glm53_validate_no_store_params(self)  # [glm53-apc-no-store]\n" _ rfl]

def reqResolveOld : List Char := List.flatten [
  verbatim "        self.skip_reading_prefix_cache = " _ rfl,
  verbatim "self.get_skip_reading_prefix_cache()\n" _ rfl]

def reqResolveNew : List Char := List.flatten [
  verbatim "        self.skip_reading_prefix_cache = " _ rfl,
  verbatim "self.get_skip_reading_prefix_cache()\n" _ rfl,
  verbatim "        # [glm53-apc-no-store] write-side sibling; resolved once, never " _ rfl,
  verbatim "raises\n" _ rfl,
  verbatim "        self.skip_writing_prefix_cache = " _ rfl,
  verbatim "self.get_skip_writing_prefix_cache()\n" _ rfl]

def reqMethodOld : List Char := List.flatten [
  verbatim "        return False\n" _ rfl,
  verbatim "\n" _ rfl,
  verbatim "    def is_finished(self) -> bool:\n" _ rfl]

def reqMethodNew : List Char := List.flatten [
  verbatim "        return False\n" _ rfl,
  verbatim "\n" _ rfl,
  verbatim "    def get_skip_writing_prefix_cache(self) -> bool:  # [glm53-apc-no-store]\n" _ rfl,
  verbatim "        \"\"\"Whether this request's blocks must never enter the prefix " _ rfl,
  verbatim "cache.\n" _ rfl,
  verbatim "\n" _ rfl,
  verbatim "        Typed ``SamplingParams.skip_writing_prefix_cache`` first, then\n" _ rfl,
  verbatim "        ``SamplingParams.extra_args`` (the ``vllm_xargs`` route). Strict 0/1\n" _ rfl,
  verbatim "        values; the kill switch GLM53_APC_NO_STORE=0 makes a valid 1 a " _ rfl,
  verbatim "logged\n" _ rfl,
  verbatim "        no-op. Never raises (see _glm53_resolve_no_store). PoolingParams are\n" _ rfl,
  verbatim "        out of scope (chat/completions only).\n" _ rfl,
  verbatim "        \"\"\"\n" _ rfl,
  verbatim "        from vllm.sampling_params import _glm53_resolve_no_store\n" _ rfl,
  verbatim "\n" _ rfl,
  verbatim "        return _glm53_resolve_no_store(self.sampling_params, " _ rfl,
  verbatim "self.request_id)\n" _ rfl,
  verbatim "\n" _ rfl,
  verbatim "    def is_finished(self) -> bool:\n" _ rfl]

def bpClassAnchor : List Char := List.flatten [
  verbatim "\n" _ rfl,
  verbatim "class BlockPool:\n" _ rfl]

def bpHelper : List Char := List.flatten [
  verbatim "\n" _ rfl,
  verbatim "def _glm53_log_nostore(request, site) -> None:  # [glm53-apc-no-store]\n" _ rfl,
  verbatim "    \"\"\"Proof-of-life: log the first time a no-store request suppresses a " _ rfl,
  verbatim "store.\n" _ rfl,
  verbatim "\n" _ rfl,
  verbatim "    Pair with the resolution receipt logged by Request: that one proves the\n" _ rfl,
  verbatim "    flag reached the engine, this one proves the store path was cut. A warm\n" _ rfl,
  verbatim "    no-store request that has nothing new to store legitimately emits only\n" _ rfl,
  verbatim "    the first.\n" _ rfl,
  verbatim "    \"\"\"\n" _ rfl,
  verbatim "    # ``info_once`` is keyed on (msg, args): the site is a bounded set (two\n" _ rfl,
  verbatim "    # values), the request id is deliberately not an arg.\n" _ rfl,
  verbatim "    logger.info_once(\n" _ rfl,
  verbatim "        \"[glm53-apc-no-store] suppressing prefix-cache store (%s site); \"\n" _ rfl,
  verbatim "        \"lookups still enabled; later occurrences not logged\",\n" _ rfl,
  verbatim "        site,\n" _ rfl,
  verbatim "    )\n" _ rfl,
  verbatim "    logger.debug(\n" _ rfl,
  verbatim "        \"[glm53-apc-no-store] %s store suppressed for request %s\",\n" _ rfl,
  verbatim "        site,\n" _ rfl,
  verbatim "        getattr(request, \"request_id\", \"<unknown>\"),\n" _ rfl,
  verbatim "    )\n" _ rfl,
  verbatim "\n" _ rfl]

def bpFullOld : List Char := List.flatten [
  verbatim "        if num_cached_blocks >= num_full_blocks:\n" _ rfl,
  verbatim "            return\n" _ rfl,
  verbatim "        new_full_blocks = blocks[num_cached_blocks:num_full_blocks]\n" _ rfl]

def bpFullNew : List Char := List.flatten [
  verbatim "        if num_cached_blocks >= num_full_blocks:\n" _ rfl,
  verbatim "            return\n" _ rfl,
  verbatim "        if getattr(request, \"skip_writing_prefix_cache\", False):  # " _ rfl,
  verbatim "[glm53-apc-no-store]\n" _ rfl,
  verbatim "            # No-store request: insert no hash, emit no BlockStored event.\n" _ rfl,
  verbatim "            # The caller (SingleTypeKVCacheManager.cache_blocks) still " _ rfl,
  verbatim "advances\n" _ rfl,
  verbatim "            # ``num_cached_block`` -- the running-request sentinel read at\n" _ rfl,
  verbatim "            # single_type_kv_cache_manager.py:196 and " _ rfl,
  verbatim "kv_cache_coordinator.py:241\n" _ rfl,
  verbatim "            # -- so allocation accounting is unchanged. These blocks keep\n" _ rfl,
  verbatim "            # ``block_hash is None`` and are recycled LIFO from the front of " _ rfl,
  verbatim "the\n" _ rfl,
  verbatim "            # free queue by ``free_blocks`` below, ahead of anything cached.\n" _ rfl,
  verbatim "            _glm53_log_nostore(request, \"full\")\n" _ rfl,
  verbatim "            return\n" _ rfl,
  verbatim "        new_full_blocks = blocks[num_cached_blocks:num_full_blocks]\n" _ rfl]

def bpPartialOld : List Char := List.flatten [
  verbatim "        if block.is_null:\n" _ rfl,
  verbatim "            return None\n" _ rfl,
  verbatim "\n" _ rfl,
  verbatim "        assert block_size > self.hash_block_size\n" _ rfl]

def bpPartialNew : List Char := List.flatten [
  verbatim "        if block.is_null:\n" _ rfl,
  verbatim "            return None\n" _ rfl,
  verbatim "        if getattr(request, \"skip_writing_prefix_cache\", False):  # " _ rfl,
  verbatim "[glm53-apc-no-store]\n" _ rfl,
  verbatim "            # No-store request: no partial entry. Returning None also stops\n" _ rfl,
  verbatim "            # MambaManager._cache_partial_tail_block from registering this\n" _ rfl,
  verbatim "            # request in ``_partial_hit_reqs`` as a partial-tail *producer*\n" _ rfl,
  verbatim "            # (single_type_kv_cache_manager.py:1865), which keeps\n" _ rfl,
  verbatim "            # get_num_blocks_to_allocate and allocate_new_blocks in " _ rfl,
  verbatim "agreement\n" _ rfl,
  verbatim "            # and keeps move_block_hashes unreachable for it. The *reader* " _ rfl,
  verbatim "side\n" _ rfl,
  verbatim "            # of the partial-hit CoW (add_local_computed_blocks:285-291) is\n" _ rfl,
  verbatim "            # untouched: lookups remain enabled for no-store requests.\n" _ rfl,
  verbatim "            _glm53_log_nostore(request, \"partial\")\n" _ rfl,
  verbatim "            return None\n" _ rfl,
  verbatim "\n" _ rfl,
  verbatim "        assert block_size > self.hash_block_size\n" _ rfl]

def loggerLine : List Char := verbatim "logger = init_logger(__name__)\n" _ rfl

inductive Target where
  | samplingParams
  | request
  | blockPool
  deriving DecidableEq

structure Edit where
  label : String
  old : List Char
  new : List Char

def edits : Target → List Edit
  | .samplingParams => [
    ⟨"sampling-field", spFieldOld, spFieldNew⟩,
    ⟨"sampling-helpers", spClassAnchor, spHelpers ++ spClassAnchor⟩,
    ⟨"sampling-post-init", spPostOld, spPostNew⟩]
  | .request => [
    ⟨"request-resolve", reqResolveOld, reqResolveNew⟩,
    ⟨"request-method", reqMethodOld, reqMethodNew⟩]
  | .blockPool => [
    ⟨"block-pool-helper", bpClassAnchor, bpHelper ++ bpClassAnchor⟩,
    ⟨"block-pool-full", bpFullOld, bpFullNew⟩,
    ⟨"block-pool-partial", bpPartialOld, bpPartialNew⟩]

def needles : Target → List (List Char)
  | .samplingParams => [loggerLine]
  | .request => []
  | .blockPool => [loggerLine]

def targets : List Target := [.samplingParams, .request, .blockPool]

def expectedMarks (edits : List Edit) : Int :=
  edits.foldr (fun e total => count mark e.new - count mark e.old + total) 0

inductive InstallError where
  | missing (target : Target)
  | undecodable (target : Target)
  | partialPatch (target : Target) (have' : Nat) (want : Int) (labels : List String)
  | prerequisite (target : Target) (needle : List Char)
  | anchor (target : Target) (label : String) (found : Nat)
  | internal (target : Target)
  | unparsable (target : Target)
  deriving DecidableEq

def applyEdits (target : Target) : List Edit → List Char → Except InstallError (List Char)
  | [], text => .ok text
  | e :: rest, text =>
    if count e.old text ≠ 1 then .error (.anchor target e.label (count e.old text))
    else applyEdits target rest (replaceFirst e.old e.new text)

/-- The patched text, or `none` if the file is already complete. -/
def preflight (parses : List Char → Bool) (target : Target) (text : List Char) :
    Except InstallError (Option (List Char)) :=
  let want := expectedMarks (edits target)
  if count mark text ≠ 0 then
    let lacking := (edits target).filter fun e => count e.new text ≠ 1
    if (count mark text : Int) ≠ want ∨ lacking ≠ [] then
      .error (.partialPatch target (count mark text) want (lacking.map Edit.label))
    else if parses text then .ok none else .error (.unparsable target)
  else
    match (needles target).find? fun needle => count needle text ≠ 1 with
    | some needle => .error (.prerequisite target needle)
    | none =>
      match applyEdits target (edits target) text with
      | .error e => .error e
      | .ok out =>
        if (count mark out : Int) ≠ want then .error (.internal target)
        else if parses out then .ok (some out) else .error (.unparsable target)

def check (parses : List Char → Bool) (target : Target) (file : Option File) :
    Except InstallError (Option (Option File)) :=
  match file with
  | none => .error (.missing target)
  | some f =>
    match f.read with
    | none => .error (.undecodable target)
    | some text => (preflight parses target text).map fun out => out.map fun t => some (.text t)

abbrev Files := Target → Option File

def main (parses : List Char → Bool) (files : Files) : Except InstallError Unit × Files :=
  install (check parses) targets files

def Complete (parses : List Char → Bool) (target : Target) (file : Option File) : Prop :=
  ∃ f text, file = some f ∧ f.read = some text ∧
    (count mark text : Int) = expectedMarks (edits target) ∧
    (∀ e ∈ edits target, count e.new text = 1) ∧ parses text = true

def SomeButNotAll (target : Target) (file : Option File) : Prop :=
  ∃ f text, file = some f ∧ f.read = some text ∧
    (mark <:+: text ∨ ∃ e ∈ edits target, e.new <:+: text) ∧
    ∃ e ∈ edits target, ¬ e.new <:+: text

/-- The edits with the ends their two sides share, so that a line end can belong to two
    neighbouring snippets. -/
def windows : Target → List (Window Char)
  | .samplingParams => [
    Window.of spFieldOld spFieldNew 0 1,
    Window.of spClassAnchor (spHelpers ++ spClassAnchor) 1 1,
    Window.of spPostOld spPostNew 0 1]
  | .request => [
    Window.of reqResolveOld reqResolveNew 0 0,
    Window.of reqMethodOld reqMethodNew 0 0]
  | .blockPool => [
    Window.of bpClassAnchor (bpHelper ++ bpClassAnchor) 1 1,
    Window.of bpFullOld bpFullNew 0 1,
    Window.of bpPartialOld bpPartialNew 0 1]

theorem windows_edits : ∀ target, (windows target).map (fun w => (w.old, w.new)) =
    (edits target).map fun e => (e.old, e.new) := by
  intro target
  cases target with
  | samplingParams =>
    simp only [windows, edits, List.map_cons, List.map_nil]
    rw [Window.old_of _ _ (by decide +kernel), Window.old_of _ _ (by decide +kernel),
      Window.old_of _ _ (by decide +kernel),
      Window.new_of (by decide +kernel) (by decide +kernel) (by decide +kernel),
      Window.new_of (by decide +kernel) (by decide +kernel) (by decide +kernel),
      Window.new_of (by decide +kernel) (by decide +kernel) (by decide +kernel)]
  | request => decide +kernel
  | blockPool => decide +kernel

theorem texts_checked : ∀ target,
    settledBy (charsApart 64) [] (windows target) = true ∧
    ((edits target).all fun e => (find mark e.new).isSome && !e.new.contains '\r') = true ∧
    expectedMarks (edits target) ≠ 0 := by
  have quick : charsApart 64 = apartQuick 7 charCode 64 := by
    funext own p a m b
    exact charsApart_quick 64 own p a m b
  intro target
  rw [quick]
  cases target <;> decide +kernel

example : (edits .blockPool).length = 3 := by decide +kernel

theorem windows_settled (target : Target) : settled [] (windows target) = true :=
  settled_of_by clear_of_charsApart (texts_checked target).1

theorem applyEdits_replaceAll {target : Target} {all : List Edit} :
    ∀ {ws : List (Window Char)} {text out : List Char},
      ws.map (fun w => (w.old, w.new)) = all.map (fun e => (e.old, e.new)) →
      applyEdits target all text = .ok out → replaceAll ws text = some out := by
  induction all with
  | nil =>
    intro ws text out same applied
    cases applied
    rw [List.map_nil, List.map_eq_nil_iff] at same
    rw [same]
    rfl
  | cons e rest ih =>
    intro ws text out same applied
    obtain ⟨w, later, rfl, here, there⟩ := List.map_eq_cons_iff.mp same
    obtain ⟨old, new⟩ := Prod.mk.inj here
    rw [applyEdits] at applied
    split at applied
    · cases applied
    · rename_i counted
      rw [replaceAll, old, new, if_pos (not_not.mp counted)]
      exact ih there applied

theorem snippets_marked : ∀ target, ∀ e ∈ edits target, mark <:+: e.new ∧ '\r' ∉ e.new := by
  intro target e member
  have own := List.all_eq_true.mp (texts_checked target).2.1 e member
  rw [Bool.and_eq_true] at own
  exact ⟨(find_isSome_iff mark e.new).mp own.1, by simpa using own.2⟩

theorem mark_nonempty : mark ≠ [] := by
  decide

theorem new_nonempty {target : Target} {e : Edit} (member : e ∈ edits target) : e.new ≠ [] := by
  intro empty
  have marked := (snippets_marked target e member).1
  rw [empty, List.infix_nil] at marked
  exact mark_nonempty marked

theorem window_edit {target : Target} {w : Window Char} (member : w ∈ windows target) :
    ∃ e ∈ edits target, e.new = w.new := by
  have listed : (w.old, w.new) ∈ (edits target).map fun e => (e.old, e.new) := by
    rw [← windows_edits]
    exact List.mem_map_of_mem member
  obtain ⟨e, inEdits, same⟩ := List.mem_map.mp listed
  exact ⟨e, inEdits, (Prod.mk.inj same).2⟩

theorem edit_window {target : Target} {e : Edit} (member : e ∈ edits target) :
    ∃ w ∈ windows target, w.new = e.new := by
  have listed : (e.old, e.new) ∈ (windows target).map fun w => (w.old, w.new) := by
    rw [windows_edits]
    exact List.mem_map_of_mem member
  obtain ⟨w, inWindows, same⟩ := List.mem_map.mp listed
  exact ⟨w, inWindows, (Prod.mk.inj same).2⟩

theorem applyEdits_once {target : Target} {text out : List Char} (unmarked : ¬ mark <:+: text)
    (applied : applyEdits target (edits target) text = .ok out) :
    ∀ e ∈ edits target, count e.new out = 1 := by
  have nonempty : ∀ w ∈ windows target, w.new ≠ [] := by
    intro w member
    obtain ⟨e, inEdits, same⟩ := window_edit member
    rw [← same]
    exact new_nonempty inEdits
  have absent : ∀ w ∈ windows target, ¬ w.new <:+: text := by
    intro w member present
    obtain ⟨e, inEdits, same⟩ := window_edit member
    rw [← same] at present
    exact unmarked ((snippets_marked target e inEdits).1.trans present)
  have onces := once_after (windows_settled target) (fun _ none => absurd none List.not_mem_nil)
    nonempty (fun _ none => absurd none List.not_mem_nil) absent
    (applyEdits_replaceAll (windows_edits target) applied)
  intro e member
  obtain ⟨w, inWindows, same⟩ := edit_window member
  rw [← same]
  exact count_of_once (nonempty w inWindows) (onces w (by simpa using inWindows))

theorem applyEdits_no_return {target : Target} {all : List Edit}
    (clean : ∀ e ∈ all, '\r' ∉ e.new) : ∀ {text out : List Char}, '\r' ∉ text →
      applyEdits target all text = .ok out → '\r' ∉ out := by
  induction all with
  | nil =>
    intro text out plain applied
    cases applied
    exact plain
  | cons e rest ih =>
    intro text out plain applied
    rw [applyEdits] at applied
    split at applied
    · cases applied
    · rename_i counted
      obtain ⟨u, v, split, replaced⟩ := replaceFirst_of_count e.new (not_not.mp counted)
      rw [split] at plain
      refine ih (fun r member => clean r (List.mem_cons_of_mem _ member)) ?_ applied
      rw [replaced]
      have own := clean e List.mem_cons_self
      simp only [List.mem_append, not_or] at plain ⊢
      exact ⟨⟨plain.1.1, own⟩, plain.2⟩

theorem preflight_cases {parses : List Char → Bool} {target : Target} {text : List Char}
    {result : Option (List Char)} (passed : preflight parses target text = .ok result) :
    (result = none ∧ (count mark text : Int) = expectedMarks (edits target) ∧
      (∀ e ∈ edits target, count e.new text = 1) ∧ parses text = true) ∨
    ∃ out, result = some out ∧ count mark text = 0 ∧
      applyEdits target (edits target) text = .ok out ∧
      (count mark out : Int) = expectedMarks (edits target) ∧ parses out = true := by
  unfold preflight at passed
  simp only at passed
  split at passed
  · split at passed
    · cases passed
    · rename_i complete
      rw [not_or, not_not, not_not] at complete
      split at passed
      · rename_i parsed
        cases passed
        refine Or.inl ⟨rfl, complete.1, ?_, parsed⟩
        intro e member
        simpa using List.filter_eq_nil_iff.mp complete.2 e member
      · cases passed
  · rename_i unmarked
    split at passed
    · cases passed
    split at passed
    · cases passed
    · rename_i out applied
      split at passed
      · cases passed
      rename_i counted
      split at passed
      · rename_i parsed
        cases passed
        exact Or.inr ⟨out, rfl, not_not.mp unmarked, applied, not_not.mp counted, parsed⟩
      · cases passed

theorem preflight_complete {parses : List Char → Bool} {target : Target} {text : List Char}
    (marks : (count mark text : Int) = expectedMarks (edits target))
    (onces : ∀ e ∈ edits target, count e.new text = 1) (parsed : parses text = true) :
    preflight parses target text = .ok none := by
  have marked : count mark text ≠ 0 := by
    intro zero
    rw [zero] at marks
    exact (texts_checked target).2.2 marks.symm
  have lacking : (edits target).filter (fun e => count e.new text ≠ 1) = [] := by
    rw [List.filter_eq_nil_iff]
    intro e member
    simp [onces e member]
  unfold preflight
  simp only [lacking]
  rw [if_pos marked, if_neg (by simp [marks]), if_pos parsed]

theorem check_cases {parses : List Char → Bool} {target : Target} {file : Option File}
    {write : Option (Option File)} (checked : check parses target file = .ok write) :
    ∃ f text result, file = some f ∧ f.read = some text ∧
      preflight parses target text = .ok result ∧ write = result.map fun t => some (.text t) := by
  unfold check at checked
  split at checked
  · cases checked
  rename_i f
  split at checked
  · cases checked
  rename_i text read
  cases passed : preflight parses target text with
  | error e =>
    rw [passed] at checked
    cases checked
  | ok result =>
    rw [passed] at checked
    cases checked
    exact ⟨f, text, result, rfl, read, passed, rfl⟩

theorem complete_of_check {parses : List Char → Bool} {target : Target} {file : Option File}
    (checked : check parses target file = .ok none) : Complete parses target file := by
  obtain ⟨f, text, result, found, read, passed, write⟩ := check_cases checked
  rcases preflight_cases passed with ⟨rfl, marks, onces, parsed⟩ | ⟨out, rfl, _⟩
  · exact ⟨f, text, found, read, marks, onces, parsed⟩
  · cases write

theorem check_settles (parses : List Char → Bool) (target : Target) (file written : Option File)
    (checked : check parses target file = .ok (some written)) :
    check parses target written = .ok none := by
  obtain ⟨f, text, result, _, read, passed, write⟩ := check_cases checked
  rcases preflight_cases passed with ⟨rfl, _⟩ | ⟨out, rfl, unmarked, applied, marks, parsed⟩
  · cases write
  cases write
  have absent := (count_eq_zero_iff mark_nonempty text).mp unmarked
  have clean : ∀ e ∈ edits target, '\r' ∉ e.new := fun e member =>
    (snippets_marked target e member).2
  have plain := applyEdits_no_return clean (File.no_return_of_read read) applied
  have again : (File.text out).read = some out := by
    rw [File.read, translate_of_no_return _ plain]
  unfold check
  simp only [again, preflight_complete marks (applyEdits_once absent applied) parsed]
  rfl

theorem check_refuses (parses : List Char → Bool) {target : Target} {file : Option File}
    (mixed : SomeButNotAll target file) : ∃ e, check parses target file = .error e := by
  obtain ⟨f, text, rfl, read, carries, e, member, lacks⟩ := mixed
  have marked : mark <:+: text := by
    rcases carries with here | ⟨d, inEdits, present⟩
    · exact here
    · exact (snippets_marked target d inEdits).1.trans present
  cases checked : check parses target (some f) with
  | error wrong => exact ⟨wrong, rfl⟩
  | ok write =>
    exfalso
    obtain ⟨g, text', result, found, read', passed, _⟩ := check_cases checked
    cases found
    rw [read] at read'
    cases read'
    rcases preflight_cases passed with ⟨_, _, onces, _⟩ | ⟨_, _, unmarked, _⟩
    · have once := onces e member
      rw [(count_eq_zero_iff (new_nonempty member) text).mpr lacks] at once
      cases once
    · exact (count_eq_zero_iff mark_nonempty text).mp unmarked marked

end Installers.NoStore
