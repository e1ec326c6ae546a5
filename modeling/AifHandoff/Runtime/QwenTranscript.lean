import AifHandoff.Runtime.QwenSteps

/-!
The transcripts the local agent posts (`runtime/adapters/qwenLocalAgent/api.ts`).
-/

namespace AifHandoff.Runtime

open StopLoop

variable {World ν : Type}

/-! ### Well-formed transcripts -/

/-- The call a message answers. -/
def Message.answeredId : Message → Option String
  | .tool id _ _ => some id
  | _ => none

/-- A message that neither makes nor answers calls. -/
def Message.IsPlain : Message → Prop
  | .system _ | .user _ => True
  | .assistant _ calls => calls = []
  | .tool _ _ _ => False

/-- Every message with calls has distinct ones and is followed by one answer to each of them, in
order; no other message answers a call. -/
inductive WellFormed : List Message → Prop
  | nil : WellFormed []
  | plain {message : Message} {rest : List Message} : message.IsPlain → WellFormed rest →
      WellFormed (message :: rest)
  | calls {content : Option String} {calls : List ToolCall} {answers rest : List Message} :
      (calls.map ToolCall.id).Nodup →
      answers.map Message.answeredId = calls.map (fun call => some call.id) →
      WellFormed rest → WellFormed (.assistant content calls :: (answers ++ rest))

theorem WellFormed.append {front back : List Message} (wellFormed : WellFormed front)
    (more : WellFormed back) : WellFormed (front ++ back) := by
  induction wellFormed with
  | nil => exact more
  | plain plain _ ih => exact .plain plain ih
  | calls distinct answered _ ih =>
    rw [List.cons_append, List.append_assoc]
    exact .calls distinct answered ih

theorem WellFormed.distinct {messages : List Message} (wellFormed : WellFormed messages)
    {content : Option String} {calls : List ToolCall}
    (inside : Message.assistant content calls ∈ messages) : (calls.map ToolCall.id).Nodup := by
  induction wellFormed with
  | nil => cases inside
  | plain plain _ ih =>
    rcases List.mem_cons.mp inside with rfl | inside
    · rw [show calls = [] from plain]
      exact List.nodup_nil
    · exact ih inside
  | calls distinct answered _ ih =>
    rcases List.mem_cons.mp inside with same | inside
    · cases same
      exact distinct
    rcases List.mem_append.mp inside with answer | inside
    · -- an answer is no message with calls
      have given : (Message.assistant content calls).answeredId ∈
          List.map Message.answeredId _ := List.mem_map_of_mem answer
      rw [answered, List.mem_map] at given
      obtain ⟨call, _, other⟩ := given
      cases other
    · exact ih inside

theorem wellFormed_answers_iff {front answers : List Message} {content : Option String}
    {calls : List ToolCall} (wellFormed : WellFormed front)
    (answered : answers.map Message.answeredId = calls.map (fun call => some call.id)) :
    WellFormed (front ++ .assistant content calls :: answers) ↔ (calls.map ToolCall.id).Nodup := by
  constructor
  · intro whole
    exact whole.distinct (List.mem_append_right _ List.mem_cons_self)
  · intro distinct
    have block : WellFormed (.assistant content calls :: (answers ++ [])) :=
      .calls distinct answered .nil
    rw [List.append_nil] at block
    exact wellFormed.append block

/-! ### Ids of calls -/

/-- The calls a response names. -/
def namedItems (items : List (Json ν)) : List (Json ν) :=
  items.filter fun item => (callName item).isSome

/-- No two calls give the same id, and none gives the id that is generated for another. -/
structure DistinctCallIds (items : List (Json ν)) : Prop where
  given : ((namedItems items).filterMap callId).Nodup
  generated : ∀ position item, (namedItems items)[position]? = some item → callId item = none →
    generatedId position ∉ (namedItems items).filterMap callId

theorem generatedId_inj {m n : Nat} (same : generatedId m = generatedId n) : m = n := by
  have digits : Nat.toDigits 10 (m + 1) = Nat.toDigits 10 (n + 1) := by
    have texts := congrArg String.toList same
    rw [generatedId, generatedId, String.toList_append, String.toList_append] at texts
    have behind := List.append_cancel_left texts
    change (Nat.repr _).toList = (Nat.repr _).toList at behind
    rwa [Nat.repr, Nat.repr, String.toList_ofList, String.toList_ofList] at behind
  have read := congrArg Json.decimalNumbers.read digits
  have back := Json.lawful_decimalNumbers.read
  change ∀ n, Json.decimalNumbers.read (Nat.toDigits 10 n) = n at back
  rw [back, back] at read
  exact Nat.succ.inj read

theorem normalizeToolCalls_concat (numbers : NumberTexts ν) (items : List (Json ν))
    (item : Json ν) :
    normalizeToolCalls numbers (some (.arr (items ++ [item]))) =
      normalizeToolCalls numbers (some (.arr items)) ++
        (normalizeToolCall numbers (normalizeToolCalls numbers (some (.arr items))).length
          item).toList := by
  simp only [normalizeToolCalls, List.foldl_append, List.foldl_cons, List.foldl_nil]

theorem ids_normalizeToolCalls (numbers : NumberTexts ν) (items : List (Json ν)) :
    (normalizeToolCalls numbers (some (.arr items))).map ToolCall.id =
      (namedItems items).mapIdx fun position item => (callId item).getD (generatedId position) := by
  induction items using List.reverseRecOn with
  | nil => rfl
  | append_singleton items item ih =>
    have sameLength := congrArg List.length ih
    rw [List.length_map, List.length_mapIdx] at sameLength
    have split : namedItems (items ++ [item]) = namedItems items ++ namedItems [item] :=
      List.filter_append _ _
    rw [normalizeToolCalls_concat, List.map_append, ih, sameLength, split, List.mapIdx_append]
    cases named : callName item with
    | none => simp [normalizeToolCall, named, namedItems]
    | some name => simp [normalizeToolCall, named, namedItems]

theorem distinctCallIds_iff (numbers : NumberTexts ν) (items : List (Json ν)) :
    ((normalizeToolCalls numbers (some (.arr items))).map ToolCall.id).Nodup ↔
      DistinctCallIds items := by
  rw [ids_normalizeToolCalls, List.Nodup, List.pairwise_iff_getElem]
  simp only [List.length_mapIdx, List.getElem_mapIdx]
  constructor
  · intro distinct
    constructor
    · rw [List.Nodup, List.pairwise_filterMap, List.pairwise_iff_getElem]
      intro i j hi hj before x hx y hy same
      refine distinct i j hi hj before ?_
      rw [hx, hy]
      exact same
    · intro position item here none_ given
      obtain ⟨bound, rfl⟩ := List.getElem?_eq_some_iff.mp here
      obtain ⟨other, inside, same⟩ := List.mem_filterMap.mp given
      obtain ⟨place, placed, rfl⟩ := List.getElem_of_mem inside
      rcases Nat.lt_trichotomy place position with before | rfl | behind
      · refine distinct place position placed bound before ?_
        rw [same, none_]
        rfl
      · rw [none_] at same
        cases same
      · refine distinct position place bound placed behind ?_
        rw [same, none_]
        rfl
  · rintro ⟨given, generated⟩ i j hi hj before same
    rw [List.Nodup, List.pairwise_filterMap, List.pairwise_iff_getElem] at given
    have among {place : Nat} (placed : place < (namedItems items).length) {id : String}
        (gives : callId (namedItems items)[place] = some id) :
        id ∈ (namedItems items).filterMap callId :=
      List.mem_filterMap.mpr ⟨_, List.getElem_mem placed, gives⟩
    cases first : callId (namedItems items)[i] with
    | some x =>
      cases second : callId (namedItems items)[j] with
      | some y =>
        rw [first, second] at same
        exact given i j hi hj before x first y second same
      | none =>
        rw [first, second] at same
        refine generated j _ (List.getElem?_eq_getElem hj) second ?_
        rw [show generatedId j = x from same.symm]
        exact among hi first
    | none =>
      cases second : callId (namedItems items)[j] with
      | some y =>
        rw [first, second] at same
        refine generated i _ (List.getElem?_eq_getElem hi) first ?_
        rw [show generatedId i = y from same]
        exact among hj second
      | none =>
        rw [first, second] at same
        exact absurd (generatedId_inj same) (Nat.ne_of_lt before)

/-! ### What the steps do to the transcript -/

section Steps

variable (host : Host World ν) (input : RunInput) {s s' : LoopState World ν}

def Deed.request? : Deed ν → Option (List Message × Option (Json ν))
  | .request messages answer => some (messages, answer)
  | _ => none

/-- The requests of the run so far: what was posted, and the response. -/
def LoopState.posted (s : LoopState World ν) : List (List Message × Option (Json ν)) :=
  s.deeds.filterMap Deed.request?

theorem Finalizes.posted {tools : List String} (finalizes : Finalizes tools s s') :
    s'.posted = s.posted := by
  obtain ⟨world, deeds, named, rfl⟩ := finalizes
  have none_ : deeds.filterMap Deed.request? = [] := by
    rw [List.filterMap_eq_nil_iff]
    intro deed inside
    have called : deed.finalizedTool? ∈ tools.map some := named ▸ List.mem_map_of_mem inside
    obtain ⟨tool, _, isTool⟩ := List.mem_map.mp called
    cases deed with
    | finalization toolName args result => rfl
    | request messages answer => cases isTool
    | toolCall record => cases isTool
  simp only [LoopState.posted, List.filterMap_append, none_, List.append_nil]

theorem Finalizes.messages {tools : List String} (finalizes : Finalizes tools s s') :
    s'.messages = s.messages := by
  obtain ⟨world, deeds, named, rfl⟩ := finalizes
  rfl

theorem answerToolCall_posted (call : ToolCall) (args : Fields ν) (fileStates : List (Json ν))
    (signature : String) :
    (answerToolCall host input s call args fileStates signature).1.posted = s.posted := by
  have settled : (settledState host input s call args fileStates signature).posted = s.posted := by
    rw [LoopState.posted, settledState_deeds, List.filterMap_append]
    exact List.append_nil _
  rcases answerToolCall_cases host input s call args fileStates signature with
    ⟨end_, _, ended⟩ | ⟨_, content, denied, answered⟩
  · rw [ended]
    exact settled
  · obtain ⟨tools, _, finalizes, _⟩ := endAfterAnswer_finalizes host input
      ((settledState host input s call args fileStates signature).push
        (.tool call.id call.name content))
      (recordOf host input s call args fileStates signature) denied
    rw [answered, finalizes.posted]
    exact settled

/-- A call posts nothing; where the run goes on, its answer is behind the transcript. -/
theorem processToolCall_transcript (s : LoopState World ν) (call : ToolCall) :
    (processToolCall host input s call).1.posted = s.posted ∧
      ((processToolCall host input s call).2 = none → ∃ content,
        (processToolCall host input s call).1.messages =
          s.messages ++ [.tool call.id call.name content]) := by
  rcases processToolCall_cases host input s call with
    ⟨_, failed⟩ | ⟨args, _, ⟨end_, finalized⟩ | ⟨_, end_, _, blocked⟩ | ⟨_, answered⟩⟩
  · rw [failed]
    exact ⟨rfl, fun _ => ⟨_, rfl⟩⟩
  · rw [finalized]
    obtain ⟨tools, others, _, _, finalizes⟩ :=
      completeBudgetFinalizationFromExistingAuditReport_finalizes host input s
    exact ⟨finalizes.posted, fun goes => absurd goes (by simp)⟩
  · rw [blocked]
    exact ⟨rfl, fun goes => absurd goes (by simp)⟩
  · rw [answered]
    refine ⟨answerToolCall_posted host input _ _ _ _, fun goes => ?_⟩
    rcases answerToolCall_cases host input
        (s.noteSignature (signatureOf host input s call.name args)) call args
        (toolLoopFileStates host s.world call.name args)
        (signatureOf host input s call.name args) with
      ⟨end_, _, ended⟩ | ⟨_, content, denied, pushed⟩
    · rw [ended] at goes
      cases goes
    · rw [pushed]
      obtain ⟨tools, _, finalizes, _⟩ := endAfterAnswer_finalizes host input
        ((settledState host input
          (s.noteSignature (signatureOf host input s call.name args)) call args
          (toolLoopFileStates host s.world call.name args)
          (signatureOf host input s call.name args)).push (.tool call.id call.name content))
        (recordOf host input (s.noteSignature (signatureOf host input s call.name args)) call args
          (toolLoopFileStates host s.world call.name args)
          (signatureOf host input s call.name args)) denied
      refine ⟨content, ?_⟩
      rw [finalizes.messages, LoopState.push, settledState_messages]
      rfl

/-- The calls of a response post nothing; where the run goes on, each has its answer, in order. -/
theorem toolCalls_transcript (s : LoopState World ν) (calls : List ToolCall) :
    (run (processToolCall host input) s calls).1.posted = s.posted ∧
      ((run (processToolCall host input) s calls).2 = none → ∃ answers : List Message,
        answers.map Message.answeredId = calls.map (fun call => some call.id) ∧
        (run (processToolCall host input) s calls).1.messages = s.messages ++ answers) := by
  constructor
  · have kept (call : ToolCall) (now : LoopState World ν) (_ : call ∈ calls)
        (same : now.posted = s.posted) :
        (processToolCall host input now call).1.posted = s.posted :=
      (processToolCall_transcript host input now call).1.trans same
    exact run_keeps (fun now : LoopState World ν => now.posted = s.posted) rfl kept
  · induction calls generalizing s with
    | nil => exact fun _ => ⟨[], rfl, (List.append_nil _).symm⟩
    | cons call calls ih =>
      intro goes
      cases outcome : (processToolCall host input s call).2 with
      | some end_ =>
        rw [run_cons_of_some outcome, outcome] at goes
        cases goes
      | none =>
        rw [run_cons_of_none outcome] at goes ⊢
        obtain ⟨content, first⟩ := (processToolCall_transcript host input s call).2 outcome
        obtain ⟨answers, answered, later⟩ := ih _ goes
        refine ⟨.tool call.id call.name content :: answers, ?_, ?_⟩
        · rw [List.map_cons, List.map_cons, answered]
          rfl
        · rw [later, first, List.append_assoc]
          rfl

/-- A response posts nothing; where the run goes on, it stands behind the transcript with its
answers. -/
theorem processResponse_transcript (s : LoopState World ν) (payload : Json ν) :
    (processResponse host input s payload).1.posted = s.posted ∧
      ((processResponse host input s payload).2 = none → ∃ content, ∃ answers : List Message,
        answers.map Message.answeredId =
            (responseToolCalls host payload).map (fun call => some call.id) ∧
          (processResponse host input s payload).1.messages =
            s.messages ++ .assistant content (responseToolCalls host payload) :: answers) := by
  unfold processResponse
  dsimp only
  split
  · exact ⟨rfl, fun goes => absurd goes (by simp)⟩
  have calls := toolCalls_transcript host input
    (s.push (.assistant (filled (some (responseContent payload))) (responseToolCalls host payload)))
    (responseToolCalls host payload)
  revert calls
  cases run (processToolCall host input)
    (s.push (.assistant (filled (some (responseContent payload))) (responseToolCalls host payload)))
    (responseToolCalls host payload) with
  | mk now outcome =>
    rintro ⟨posted, transcript⟩
    cases outcome with
    | some end_ => exact ⟨posted, fun goes => absurd goes (by simp)⟩
    | none =>
      dsimp only
      split
      · obtain ⟨tools, others, _, _, finalizes⟩ :=
          completeBudgetFinalizationFromExistingAuditReport_finalizes host input
            now
        exact ⟨finalizes.posted.trans posted, fun goes => absurd goes (by simp)⟩
      · refine ⟨posted, fun _ => ?_⟩
        obtain ⟨answers, answered, messages⟩ := transcript rfl
        refine ⟨filled (some (responseContent payload)), answers, answered, ?_⟩
        rw [show now.messages = _ from messages, LoopState.push, List.append_assoc]
        rfl

end Steps

/-! ### Runs -/

section Runs

variable (host : Host World ν) (input : RunInput) {s : LoopState World ν}

/-- The items of a response's `tool_calls`. -/
def responseItems (payload : Json ν) : List (Json ν) :=
  match (responseMessage payload).lookup "tool_calls" with
  | some (.arr items) => items
  | _ => []

theorem responseToolCalls_eq (payload : Json ν) :
    responseToolCalls host payload =
      normalizeToolCalls host.numbers (some (.arr (responseItems payload))) := by
  unfold responseToolCalls responseItems
  cases (responseMessage payload).lookup "tool_calls" with
  | none => rfl
  | some value => cases value <;> rfl

/-- A response that the run goes on behind leaves a well-formed transcript well formed exactly when
its calls get distinct ids. -/
theorem processResponse_wellFormed_iff {payload : Json ν} (wellFormed : WellFormed s.messages)
    (goes : (processResponse host input s payload).2 = none) :
    WellFormed (processResponse host input s payload).1.messages ↔
      DistinctCallIds (responseItems payload) := by
  obtain ⟨content, answers, answered, messages⟩ :=
    (processResponse_transcript host input s payload).2 goes
  rw [messages, wellFormed_answers_iff wellFormed answered, responseToolCalls_eq,
    distinctCallIds_iff]

/-- The transcript begins with the system message. -/
def StartsWithSystem (messages : List Message) : Prop :=
  ∃ text rest, messages = .system text :: rest

theorem compact_wellFormed (starts : StartsWithSystem s.messages)
    (wellFormed : WellFormed s.messages) :
    WellFormed (s.compact host input).messages ∧
      StartsWithSystem (s.compact host input).messages := by
  obtain ⟨text, rest, shape⟩ := starts
  unfold LoopState.compact
  split
  · exact ⟨wellFormed, text, rest, shape⟩
  split
  · exact ⟨wellFormed, text, rest, shape⟩
  dsimp only
  rw [compactMessagesForEndpointBudget, shape]
  exact ⟨.plain trivial (.plain trivial .nil), text, _, rfl⟩

theorem compact_posted : (s.compact host input).posted = s.posted := by
  unfold LoopState.compact
  split
  · rfl
  split <;> rfl

/-- In every response of the run so far the calls get distinct ids. -/
def DistinctResponses (s : LoopState World ν) : Prop :=
  ∀ messages payload, (messages, some payload) ∈ s.posted → DistinctCallIds (responseItems payload)

def WellFormedRequests (s : LoopState World ν) : Prop :=
  ∀ messages answer, (messages, answer) ∈ s.posted → WellFormed messages

/-- What holds between the turns. -/
structure Conversation (s : LoopState World ν) : Prop where
  requests : WellFormedRequests s
  transcript : WellFormed s.messages
  starts : StartsWithSystem s.messages

theorem Conversation.of_posted {s' : LoopState World ν} (conversation : Conversation s)
    (same : s'.posted = s.posted) : WellFormedRequests s' := fun messages answer inside =>
  conversation.requests messages answer (same ▸ inside)

theorem DistinctResponses.of_posted {s' : LoopState World ν} (distinct : DistinctResponses s')
    {more : List (List Message × Option (Json ν))} (grown : s'.posted = s.posted ++ more) :
    DistinctResponses s := fun messages payload inside =>
  distinct messages payload (by rw [grown]; exact List.mem_append_left _ inside)

theorem request_state :
    (s.request host).1.posted = s.posted ++ [(s.messages, (s.request host).2)] ∧
      (s.request host).1.messages = s.messages := by
  refine ⟨?_, rfl⟩
  rw [LoopState.posted, LoopState.posted]
  exact List.filterMap_append

/-- A request of a well-formed transcript, and the work on the response. -/
theorem processResponse_conversation {now : LoopState World ν} {payload : Json ν}
    (conversation : Conversation s)
    (posted : now.posted = s.posted ++ [(s.messages, some payload)])
    (messages : now.messages = s.messages) :
    Leads (fun later => DistinctResponses later → Conversation later)
      (fun later => DistinctResponses later → WellFormedRequests later)
      (processResponse host input now payload) := by
  have sameRequests := (processResponse_transcript host input now payload).1
  have requests : WellFormedRequests (processResponse host input now payload).1 := by
    intro posted' answer inside
    rw [sameRequests, posted, List.mem_append, List.mem_singleton] at inside
    rcases inside with earlier | last
    · exact conversation.requests posted' answer earlier
    · cases last
      exact conversation.transcript
  refine ⟨fun goes distinct => ⟨requests, ?_, ?_⟩, fun _ _ => requests⟩
  · have wellFormed : WellFormed now.messages := messages ▸ conversation.transcript
    refine (processResponse_wellFormed_iff host input wellFormed goes).mpr ?_
    refine distinct s.messages payload ?_
    rw [sameRequests, posted]
    exact List.mem_append_right _ List.mem_cons_self
  · obtain ⟨content, answers, _, shape⟩ :=
      (processResponse_transcript host input now payload).2 goes
    obtain ⟨text, rest, starts⟩ := conversation.starts
    refine ⟨text, rest ++ .assistant content (responseToolCalls host payload) :: answers, ?_⟩
    rw [shape, messages, starts, List.cons_append]

theorem turnStep_conversation (turn : Nat) (before : DistinctResponses s → Conversation s) :
    Leads (fun now => DistinctResponses now → Conversation now)
      (fun now => DistinctResponses now → WellFormedRequests now)
      (turnStep host input s turn) := by
  unfold turnStep
  split
  · split
    · exact Leads.of_both before fun distinct => (before distinct).requests
    · obtain ⟨tools, others, _, _, finalizes⟩ :=
        completeBudgetFinalizationFromExistingAuditReport_finalizes host input s
      have same := finalizes.posted
      refine ⟨fun goes => absurd goes (by simp), fun _ distinct => ?_⟩
      exact (before (distinct.of_posted (same.trans (List.append_nil _).symm))).of_posted same
  have requested := request_state host (s := s.compact host input)
  revert requested
  cases (s.compact host input).request host with
  | mk now answer =>
    rintro ⟨posted, messages⟩
    have grown : now.posted = s.posted ++ [((s.compact host input).messages, answer)] := by
      rw [← compact_posted host input (s := s)]
      exact posted
    have compacted (distinct : DistinctResponses now) :
        Conversation (s.compact host input) := by
      have conversation := before (distinct.of_posted grown)
      obtain ⟨wellFormed, starts⟩ :=
        compact_wellFormed host input conversation.starts conversation.transcript
      exact ⟨conversation.of_posted (compact_posted host input), wellFormed, starts⟩
    cases answer with
    | none =>
      refine ⟨fun goes => absurd goes (by simp), fun _ distinct => ?_⟩
      intro posted' answer' inside
      rw [show ((now, some RunEnd.requestFailed) : _ × Option (RunEnd ν)).1 = now from rfl,
        posted, List.mem_append, List.mem_singleton] at inside
      rcases inside with earlier | last
      · exact (compacted distinct).requests posted' answer' earlier
      · cases last
        exact (compacted distinct).transcript
    | some payload =>
      have later (distinct : DistinctResponses (processResponse host input now payload).1) :
          Conversation (s.compact host input) := by
        have same : (processResponse host input now payload).1.posted = now.posted ++ [] := by
          rw [(processResponse_transcript host input now payload).1, List.append_nil]
        exact compacted (distinct.of_posted same)
      constructor
      · intro goes distinct
        exact (processResponse_conversation host input (later distinct) posted messages).going
          goes distinct
      · intro leaves distinct
        exact (processResponse_conversation host input (later distinct) posted messages).left
          leaves distinct

/-- In every run whose responses give distinct ids to their calls, every transcript that is posted
is well formed. -/
theorem posted_wellFormed (world : World)
    (distinct : DistinctResponses (runQwenLocalAgentApi host input world).1) :
    WellFormedRequests (runQwenLocalAgentApi host input world).1 := by
  have started : DistinctResponses (initialState (ν := ν) input world) →
      Conversation (initialState (ν := ν) input world) := by
    intro _
    refine ⟨fun messages answer inside => absurd inside List.not_mem_nil, ?_, ?_⟩
    · exact .plain trivial (.plain trivial .nil)
    · exact ⟨_, _, rfl⟩
  have leads : Leads (fun now => DistinctResponses now → Conversation now)
      (fun now => DistinctResponses now → WellFormedRequests now)
      (run (turnStep host input) (initialState input world)
        (List.range (readMaxToolTurns input))) :=
    run_rule _ _ started fun turn now _ holds => turnStep_conversation host input turn holds
  revert distinct leads
  unfold runQwenLocalAgentApi
  cases run (turnStep host input) (initialState input world)
    (List.range (readMaxToolTurns input)) with
  | mk now outcome =>
    intro distinct leads
    cases outcome with
    | none => exact (leads.going rfl distinct).requests
    | some end_ => exact leads.left (by simp) distinct

end Runs

/-! ### A repeated id -/

/-- A response with a call of `git_status` for each id, with arguments that are no JSON. -/
def brokenCalls (ids : List String) : Json Nat :=
  .obj [("choices", .arr [.obj [("message", .obj [("tool_calls", .arr (ids.map fun id =>
    .obj [("id", .str id), ("function", .obj
      [("name", .str "git_status"), ("arguments", .str "\x7b")])]))])]])]

/-- A well-formed run: two calls with ids of their own, then an answer. -/
theorem posted_wellFormed_two_calls :
    DistinctResponses (runQwenLocalAgentApi scriptedHost scriptedInput
        ⟨[brokenCalls ["a", "b"], .obj []], []⟩).1 ∧
      WellFormedRequests (runQwenLocalAgentApi scriptedHost scriptedInput
        ⟨[brokenCalls ["a", "b"], .obj []], []⟩).1 := by
  have distinct : DistinctResponses (runQwenLocalAgentApi scriptedHost scriptedInput
      ⟨[brokenCalls ["a", "b"], .obj []], []⟩).1 := by
    have responses : (runQwenLocalAgentApi scriptedHost scriptedInput
        ⟨[brokenCalls ["a", "b"], .obj []], []⟩).1.posted.map Prod.snd =
          [some (brokenCalls ["a", "b"]), some (.obj [])] := rfl
    intro messages payload inside
    have among : some payload ∈ [some (brokenCalls ["a", "b"]), some (.obj [])] :=
      responses ▸ List.mem_map_of_mem inside
    rcases List.mem_cons.mp among with first | later
    · cases first
      exact (distinctCallIds_iff Json.decimalNumbers _).mp (by decide)
    · cases List.mem_singleton.mp later
      exact (distinctCallIds_iff Json.decimalNumbers _).mp (by decide)
  exact ⟨distinct, posted_wellFormed scriptedHost scriptedInput _ distinct⟩

/-- The ids of the calls a message makes. -/
def Message.callIds : Message → List String
  | .assistant _ calls => calls.map ToolCall.id
  | _ => []

theorem WellFormedRequests.distinct {s : LoopState World ν} (wellFormed : WellFormedRequests s) :
    ∀ request ∈ s.posted, ∀ message ∈ request.1, message.callIds.Nodup := by
  rintro ⟨messages, answer⟩ inside message among
  cases message with
  | assistant content calls => exact (wellFormed messages answer inside).distinct among
  | system content => exact List.nodup_nil
  | user content => exact List.nodup_nil
  | tool id name content => exact List.nodup_nil

/-- Two calls with one id: the next request repeats it. -/
theorem repeated_id_posted :
    ¬ WellFormedRequests (runQwenLocalAgentApi scriptedHost scriptedInput
      ⟨[brokenCalls ["a", "a"], .obj []], []⟩).1 := by
  intro wellFormed
  have distinct := wellFormed.distinct
  revert distinct
  decide

end AifHandoff.Runtime
