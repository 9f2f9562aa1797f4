import WiznetEaas.FleetProvisioning
import WiznetEaas.JobBuffers
import WiznetEaas.JobDispatch

/-!
# Dispatch by topic

Both callbacks compare the received topic name with the topics they expect, but over
different lengths. The jobs callback compares as many bytes as were received, so every
beginning of a topic is taken for it. The provisioning callback compares as many bytes
as it expects, so every continuation of a topic is taken for it, and a beginning makes
it read on behind the received name. A handler runs on its own topic alone exactly when
the received name is no proper beginning, and no such continuation, of any topic.
-/

namespace WiznetEaas.TopicDispatch

open CStrings MqttMessages JobDocument JobList JobMessages JobDispatch FleetProvisioning

section Comparison

/-- The bytes of the first string that `strncmp` reads: up to the first difference, the
terminator or the count. -/
def strncmpReads : Nat → List UInt8 → List UInt8 → Nat
  | 0, _, _ => 0
  | count + 1, left, right =>
    if left.headD 0 = right.headD 0 ∧ left.headD 0 ≠ 0 then
      strncmpReads count left.tail right.tail + 1
    else 1

theorem strncmpReads_bound (count : Nat) (left right : List UInt8) :
    strncmpReads count left right ≤ count := by
  induction count generalizing left right with
  | zero => exact Nat.le_of_eq rfl
  | succ count inductionHypothesis =>
    rw [strncmpReads]
    split
    · have rest := inductionHypothesis left.tail right.tail
      omega
    · omega

/-- Equal bytes are read and passed. -/
theorem strncmpReads_same (count : Nat) (byte : UInt8) (left right : List UInt8)
    (nonzero : byte ≠ 0) :
    strncmpReads (count + 1) (byte :: left) (byte :: right) = strncmpReads count left right + 1 :=
  if_pos ⟨rfl, nonzero⟩

/-- A comparison stops at the first difference. -/
theorem strncmpReads_differs (count : Nat) (first second : UInt8) (left right : List UInt8)
    (differs : first ≠ second) :
    strncmpReads (count + 1) (first :: left) (second :: right) = 1 :=
  if_neg fun both => differs both.1

/-- A comparison over a topic's length succeeds exactly when the topic begins the memory. -/
theorem strncmpEqual_topic (memory topic : List UInt8) (text : IsText topic) :
    strncmpEqual topic.length memory topic = true ↔ topic <+: memory := by
  rw [strncmpEqual_comm]
  exact strncmpEqual_prefix topic memory text

/-- It reads no more than the received name unless that is a proper beginning of the topic. -/
theorem reads_inside_iff (name behind topic : List UInt8) (text : IsText topic) :
    strncmpReads topic.length (name ++ behind) topic ≤ name.length ↔
      ¬ (name ≠ topic ∧ name <+: topic) := by
  induction topic generalizing name with
  | nil =>
    have nothing : ¬ (name ≠ [] ∧ name <+: []) := fun proper =>
      proper.1 (List.prefix_nil.mp proper.2)
    simp only [List.length_nil, strncmpReads, Nat.zero_le, true_iff]
    exact nothing
  | cons byte rest inductionHypothesis =>
    have nonzero : byte ≠ 0 := text byte List.mem_cons_self
    have restText : IsText rest := fun other member => text other (List.mem_cons_of_mem byte member)
    cases name with
    | nil =>
      have proper : [] ≠ byte :: rest ∧ [] <+: byte :: rest := ⟨nofun, List.nil_prefix⟩
      rw [List.length_cons, List.length_nil, strncmpReads]
      refine ⟨fun inside => ?_, fun improper => absurd proper improper⟩
      split at inside <;> omega
    | cons first later =>
      rw [List.length_cons, List.length_cons, List.cons_append]
      by_cases same : first = byte
      · subst same
        rw [strncmpReads_same _ _ _ _ nonzero, Nat.add_le_add_iff_right,
          inductionHypothesis later restText, List.cons_prefix_cons]
        simp
      · rw [strncmpReads_differs _ _ _ _ _ same, List.cons_prefix_cons]
        simp [same]

/-- A comparison over the received length takes the beginnings of a topic, and names that
hold the terminated topic. -/
theorem strncmpEqual_received (name behind topic : List UInt8) (text : IsText topic) :
    strncmpEqual name.length (name ++ behind) topic = true ↔
      name <+: topic ∨ topic ++ [0] <+: name := by
  induction topic generalizing name with
  | nil =>
    cases name with
    | nil => exact ⟨fun _ => Or.inl List.prefix_rfl, fun _ => rfl⟩
    | cons first later =>
      have longer : ¬ first :: later <+: [] := fun begun => nomatch List.prefix_nil.mp begun
      rw [List.length_cons, List.cons_append, strncmpEqual, List.nil_append, List.cons_prefix_cons,
        beq_iff_eq]
      exact ⟨fun ends => Or.inr ⟨ends.symm, List.nil_prefix⟩,
        fun either => (either.resolve_left longer).1.symm⟩
  | cons byte rest inductionHypothesis =>
    have nonzero : byte ≠ 0 := text byte List.mem_cons_self
    have restText : IsText rest := fun other member => text other (List.mem_cons_of_mem byte member)
    cases name with
    | nil => simp [strncmpEqual]
    | cons first later =>
      rw [List.length_cons, List.cons_append, strncmpEqual, List.cons_append,
        List.cons_prefix_cons, List.cons_prefix_cons]
      by_cases same : first = byte
      · subst same
        have decided := inductionHypothesis later restText
        simp only [beq_self_eq_true, Bool.true_and, beq_eq_false_iff_ne.mpr nonzero, Bool.false_or,
          true_and]
        exact decided
      · have other : ¬ byte = first := fun equal => same equal.symm
        simp [same, other]

end Comparison

section Chains

variable {Handler : Type}

/-- A chain of `else if` comparisons over the lengths of its topics: the handler of the
first that succeeds, and how far into the memory the comparisons made read. -/
def firstMatch (info : PublishInfo) (topic : Handler → List UInt8) :
    List Handler → Option Handler × Nat
  | [] => (none, 0)
  | handler :: rest =>
    let reads := strncmpReads (topic handler).length (info.topicName ++ info.behind) (topic handler)
    if info.topicEqual (topic handler) (topic handler).length then (some handler, reads)
    else ((firstMatch info topic rest).1, max reads (firstMatch info topic rest).2)

theorem firstMatch_taken (info : PublishInfo) (topic : Handler → List UInt8) (handler : Handler)
    (rest : List Handler)
    (matched : info.topicEqual (topic handler) (topic handler).length = true) :
    (firstMatch info topic (handler :: rest)).1 = some handler := by
  rw [firstMatch]
  simp only [if_pos matched]

theorem firstMatch_passed (info : PublishInfo) (topic : Handler → List UInt8) (handler : Handler)
    (rest : List Handler)
    (unmatched : ¬ info.topicEqual (topic handler) (topic handler).length = true) :
    (firstMatch info topic (handler :: rest)).1 = (firstMatch info topic rest).1 := by
  rw [firstMatch]
  simp only [if_neg unmatched]

theorem firstMatch_reads_taken (info : PublishInfo) (topic : Handler → List UInt8)
    (handler : Handler) (rest : List Handler)
    (matched : info.topicEqual (topic handler) (topic handler).length = true) :
    (firstMatch info topic (handler :: rest)).2 =
      strncmpReads (topic handler).length (info.topicName ++ info.behind) (topic handler) := by
  rw [firstMatch]
  simp only [if_pos matched]

theorem firstMatch_reads_passed (info : PublishInfo) (topic : Handler → List UInt8)
    (handler : Handler) (rest : List Handler)
    (unmatched : ¬ info.topicEqual (topic handler) (topic handler).length = true) :
    (firstMatch info topic (handler :: rest)).2 =
      max (strncmpReads (topic handler).length (info.topicName ++ info.behind) (topic handler))
        (firstMatch info topic rest).2 := by
  rw [firstMatch]
  simp only [if_neg unmatched]

/-- A handler runs exactly on its topic, decided within the received name. -/
structure ChainLaw (info : PublishInfo) (topic : Handler → List UInt8) (handlers : List Handler) :
    Prop where
  handled : ∀ handler ∈ handlers,
    (firstMatch info topic handlers).1 = some handler ↔ info.topicName = topic handler
  read : (firstMatch info topic handlers).2 ≤ info.topicName.length

theorem firstMatch_mem (info : PublishInfo) (topic : Handler → List UInt8)
    (handlers : List Handler) (handler : Handler)
    (found : (firstMatch info topic handlers).1 = some handler) : handler ∈ handlers := by
  induction handlers with
  | nil => cases found
  | cons first rest inductionHypothesis =>
    rw [firstMatch] at found
    split at found
    · cases found
      exact List.mem_cons_self
    · exact List.mem_cons_of_mem first (inductionHypothesis found)

/-- The name and the topic differ, and one begins the other. -/
def Comparable (name topic : List UInt8) : Prop :=
  name ≠ topic ∧ (name <+: topic ∨ topic <+: name)

/-- Two beginnings of the same memory are comparable. -/
theorem matched_related (info : PublishInfo) (topic : List UInt8)
    (matched : topic <+: info.topicName ++ info.behind) :
    info.topicName <+: topic ∨ topic <+: info.topicName :=
  List.prefix_or_prefix_of_prefix (List.prefix_append _ _) matched

/-- A handler's comparison succeeds exactly when its topic begins the memory. -/
theorem matched_iff (info : PublishInfo) (topic : List UInt8) (text : IsText topic) :
    info.topicEqual topic topic.length = true ↔ topic <+: info.topicName ++ info.behind :=
  strncmpEqual_topic _ _ text

/-- When topics do not begin one another, the name that is one of them is comparable with
none. -/
theorem named_clear (info : PublishInfo) (topic : Handler → List UInt8) (handlers : List Handler)
    (apart : ∀ left ∈ handlers, ∀ right ∈ handlers, topic left <+: topic right → left = right)
    (own : Handler) (listed : own ∈ handlers) (named : info.topicName = topic own) :
    ∀ handler ∈ handlers, ¬ Comparable info.topicName (topic handler) := by
  rintro handler member ⟨differs, related⟩
  rw [named] at differs related
  rcases related with begun | begun
  · exact differs (congrArg topic (apart own listed handler member begun))
  · exact differs (congrArg topic (apart handler member own listed begun)).symm

/-- On a name other than its first topic, a law of a chain excludes that topic and is a law
of the rest. -/
theorem law_passed (info : PublishInfo) (topic : Handler → List UInt8) (first : Handler)
    (rest : List Handler) (text : IsText (topic first)) (unnamed : info.topicName ≠ topic first)
    (law : ChainLaw info topic (first :: rest)) :
    ¬ Comparable info.topicName (topic first) ∧ ChainLaw info topic rest := by
  have unmatched : ¬ info.topicEqual (topic first) (topic first).length = true := fun matched =>
    unnamed ((law.handled first List.mem_cons_self).mp
      (firstMatch_taken info topic first rest matched))
  have read := law.read
  rw [firstMatch_reads_passed info topic first rest unmatched] at read
  have inside := (reads_inside_iff info.topicName info.behind (topic first) text).mp (by omega)
  constructor
  · rintro ⟨differs, begun | begun⟩
    · exact inside ⟨differs, begun⟩
    · exact unmatched ((matched_iff info _ text).mpr (begun.trans (List.prefix_append _ _)))
  · refine ⟨fun handler member => ?_, by omega⟩
    rw [← firstMatch_passed info topic first rest unmatched]
    exact law.handled handler (List.mem_cons_of_mem first member)

/-- A law of the rest is one of the chain when the name is not comparable with the first
topic. -/
theorem law_cons (info : PublishInfo) (topic : Handler → List UInt8) (first : Handler)
    (rest : List Handler) (text : IsText (topic first)) (fresh : first ∉ rest)
    (apart : ∀ handler ∈ first :: rest, topic first <+: topic handler → first = handler)
    (clear : ¬ Comparable info.topicName (topic first)) (law : ChainLaw info topic rest) :
    ChainLaw info topic (first :: rest) := by
  have inside : strncmpReads (topic first).length (info.topicName ++ info.behind)
      (topic first) ≤ info.topicName.length :=
    (reads_inside_iff info.topicName info.behind (topic first) text).mpr
      fun proper => clear ⟨proper.1, Or.inl proper.2⟩
  by_cases named : info.topicName = topic first
  · have matched : info.topicEqual (topic first) (topic first).length = true := by
      rw [matched_iff info _ text, named]
      exact List.prefix_append _ _
    refine ⟨fun handler member => ?_, ?_⟩
    · rw [firstMatch_taken info topic first rest matched]
      constructor
      · intro same
        cases same
        exact named
      · intro other
        have begun : topic first <+: topic handler := (named.symm.trans other) ▸ List.prefix_rfl
        rw [apart handler member begun]
    · rw [firstMatch_reads_taken info topic first rest matched]
      exact inside
  · have unmatched : ¬ info.topicEqual (topic first) (topic first).length = true := fun matched =>
      clear ⟨named, matched_related info _ ((matched_iff info _ text).mp matched)⟩
    refine ⟨fun handler member => ?_, ?_⟩
    · rw [firstMatch_passed info topic first rest unmatched]
      rcases List.mem_cons.mp member with rfl | member
      · exact ⟨fun found => absurd (firstMatch_mem info topic rest handler found) fresh,
          fun same => absurd same named⟩
      · exact law.handled handler member
    · rw [firstMatch_reads_passed info topic first rest unmatched]
      exact Nat.max_le.mpr ⟨inside, law.read⟩

/-- A chain of topics none of which begins another is exact on a name just when that name
is comparable with none of them. -/
theorem chain_law_iff (info : PublishInfo) (topic : Handler → List UInt8)
    (handlers : List Handler) (distinct : handlers.Nodup)
    (texts : ∀ handler ∈ handlers, IsText (topic handler))
    (apart : ∀ left ∈ handlers, ∀ right ∈ handlers, topic left <+: topic right → left = right) :
    ChainLaw info topic handlers ↔
      ∀ handler ∈ handlers, ¬ Comparable info.topicName (topic handler) := by
  induction handlers with
  | nil => exact ⟨fun _ _ member => absurd member List.not_mem_nil,
      fun _ => ⟨fun _ member => absurd member List.not_mem_nil, Nat.zero_le _⟩⟩
  | cons first rest inductionHypothesis =>
    obtain ⟨fresh, restDistinct⟩ := List.nodup_cons.mp distinct
    obtain ⟨firstText, restTexts⟩ := List.forall_mem_cons.mp texts
    have here : first ∈ first :: rest := List.mem_cons_self
    have later := inductionHypothesis restDistinct restTexts
      (fun left leftMember right rightMember =>
        apart left (List.mem_cons_of_mem first leftMember) right
          (List.mem_cons_of_mem first rightMember))
    constructor
    · intro law
      by_cases named : info.topicName = topic first
      · exact named_clear info topic (first :: rest) apart first here named
      · obtain ⟨clear, restLaw⟩ := law_passed info topic first rest firstText named law
        exact List.forall_mem_cons.mpr ⟨clear, later.mp restLaw⟩
    · intro clear
      obtain ⟨firstClear, restClear⟩ := List.forall_mem_cons.mp clear
      exact law_cons info topic first rest firstText fresh (apart first here) firstClear
        (later.mpr restClear)

end Chains

section Provisioning

/-- The branches of `fleet_provisioning_event_callback`. -/
inductive FleetHandler where
  | createAccepted
  | createRejected
  | registerAccepted
  | registerRejected
  deriving DecidableEq

def FleetHandler.topic (awsTemplateName : List UInt8) : FleetHandler → List UInt8
  | .createAccepted => createKeyAndCertAccepted
  | .createRejected => createKeyAndCertRejected
  | .registerAccepted => FleetProvisioning.registerThingAccepted awsTemplateName
  | .registerRejected => registerThingRejected awsTemplateName

/-- The order of the comparisons. -/
def fleetHandlers : List FleetHandler :=
  [.createAccepted, .createRejected, .registerAccepted, .registerRejected]

variable {Value : Type} (cbor : TinyCbor Value) (awsTemplateName : List UInt8)

/-- What a branch does. The rejected messages are only traced. -/
def FleetHandler.run (info : PublishInfo) (state : State) : FleetHandler → State
  | .createAccepted =>
    let parsed := parsingAcceptCertificateCreateMsg cbor info.payload state.awsFpDeviceCertInfo
      state.tempOwnershipToken
    { state with
      awsFpDeviceCertInfo := parsed.2.1
      tempOwnershipToken := parsed.2.2
      recvedMqttCreateKeyAndCertAcceptMsg := true
      log := .parsed info.payload parsed.1 :: state.log }
  | .createRejected => state
  | .registerAccepted =>
    { state with
      recvedMqttRegisterThingAcceptMsg := true
      log := .saved state.awsFpDeviceCertInfo :: state.log }
  | .registerRejected => state

/-- The branch the callback takes, and how far its comparisons read. -/
def fleetDispatch (info : PublishInfo) : Option FleetHandler × Nat :=
  firstMatch info (FleetHandler.topic awsTemplateName) fleetHandlers

/-- The callback runs the branch of its dispatch. -/
theorem fleet_callback_runs (state : State) (info : PublishInfo) :
    fleetProvisioningEventCallback cbor awsTemplateName state info =
      ((fleetDispatch awsTemplateName info).1.map
        (FleetHandler.run cbor info { state with log := .handled info :: state.log })).getD
        { state with log := .handled info :: state.log } := by
  have taken (handler : FleetHandler) (rest : List FleetHandler) :=
    firstMatch_taken info (FleetHandler.topic awsTemplateName) handler rest
  have passed (handler : FleetHandler) (rest : List FleetHandler) :=
    firstMatch_passed info (FleetHandler.topic awsTemplateName) handler rest
  simp only [fleetProvisioningEventCallback, fleetDispatch, fleetHandlers]
  by_cases first : info.topicEqual createKeyAndCertAccepted createKeyAndCertAccepted.length = true
  · rw [if_pos first, taken .createAccepted _ first]
    rfl
  · rw [if_neg first, passed .createAccepted _ first]
    by_cases second :
        info.topicEqual createKeyAndCertRejected createKeyAndCertRejected.length = true
    · rw [if_pos second, taken .createRejected _ second]
      rfl
    · rw [if_neg second, passed .createRejected _ second]
      by_cases third : info.topicEqual (FleetProvisioning.registerThingAccepted awsTemplateName)
          (FleetProvisioning.registerThingAccepted awsTemplateName).length = true
      · rw [if_pos third, taken .registerAccepted _ third]
        rfl
      · rw [if_neg third, passed .registerAccepted _ third]
        by_cases fourth : info.topicEqual (registerThingRejected awsTemplateName)
            (registerThingRejected awsTemplateName).length = true
        · rw [taken .registerRejected _ fourth]
          rfl
        · rw [passed .registerRejected _ fourth]
          rfl

theorem fleetTopic_isText (handler : FleetHandler) : IsText (handler.topic awsTemplateName) := by
  have head : IsText (ascii "$aws/provisioning-templates/") := by unfold IsText; decide +kernel
  have register (tail : List UInt8) (text : IsText tail) :
      IsText (topicOf (ascii "$aws/provisioning-templates/") awsTemplateName tail) := by
    intro byte member
    rw [topicOf, List.mem_append, List.mem_append] at member
    rcases member with (first | middle) | last
    · exact head byte first
    · exact cText_isText awsTemplateName byte middle
    · exact text byte last
  cases handler with
  | createAccepted =>
    simp only [FleetHandler.topic]
    unfold IsText
    decide +kernel
  | createRejected =>
    simp only [FleetHandler.topic]
    unfold IsText
    decide +kernel
  | registerAccepted => exact register _ (by unfold IsText; decide +kernel)
  | registerRejected => exact register _ (by unfold IsText; decide +kernel)

/-- No topic of the provisioning session begins another. -/
theorem fleetTopic_apart (left right : FleetHandler)
    (begun : left.topic awsTemplateName <+: right.topic awsTemplateName) : left = right := by
  have level (outcome : List UInt8) :
      (topicOf (ascii "$aws/provisioning-templates/") awsTemplateName outcome)[5]? = some 112 := by
    rw [topicOf, List.append_assoc, List.getElem?_append_left (by decide +kernel)]
    decide +kernel
  have create (name outcome : List UInt8) (certificates : name[5]? = some 99)
      (related : name <+: topicOf (ascii "$aws/provisioning-templates/") awsTemplateName outcome ∨
        topicOf (ascii "$aws/provisioning-templates/") awsTemplateName outcome <+: name) :
      False := by
    rcases related with early | early
    · obtain ⟨rest, whole⟩ := early
      have byte := level outcome
      rw [← whole, List.getElem?_append_left (by
        exact (List.getElem?_eq_some_iff.mp certificates).1), certificates] at byte
      exact absurd byte (by decide)
    · obtain ⟨rest, whole⟩ := early
      have inside := (List.getElem?_eq_some_iff.mp (level outcome)).1
      rw [← whole, List.getElem?_append_left inside, level outcome] at certificates
      exact absurd certificates (by decide)
  have accepted : createKeyAndCertAccepted[5]? = some 99 := by decide +kernel
  have rejected : createKeyAndCertRejected[5]? = some 99 := by decide +kernel
  cases left with
  | createAccepted =>
    cases right with
    | createAccepted => rfl
    | createRejected => exact absurd begun (by simp only [FleetHandler.topic]; decide +kernel)
    | registerAccepted => exact (create _ _ accepted (Or.inl begun)).elim
    | registerRejected => exact (create _ _ accepted (Or.inl begun)).elim
  | createRejected =>
    cases right with
    | createAccepted => exact absurd begun (by simp only [FleetHandler.topic]; decide +kernel)
    | createRejected => rfl
    | registerAccepted => exact (create _ _ rejected (Or.inl begun)).elim
    | registerRejected => exact (create _ _ rejected (Or.inl begun)).elim
  | registerAccepted =>
    cases right with
    | createAccepted => exact (create _ _ accepted (Or.inr begun)).elim
    | createRejected => exact (create _ _ rejected (Or.inr begun)).elim
    | registerAccepted => rfl
    | registerRejected =>
      have tails := (List.prefix_append_right_inj _).mp begun
      exact absurd tails (by decide +kernel)
  | registerRejected =>
    cases right with
    | createAccepted => exact (create _ _ accepted (Or.inr begun)).elim
    | createRejected => exact (create _ _ rejected (Or.inr begun)).elim
    | registerAccepted =>
      have tails := (List.prefix_append_right_inj _).mp begun
      exact absurd tails (by decide +kernel)
    | registerRejected => rfl

/-- The provisioning callback runs a handler exactly on its topic. -/
structure FleetLaw (info : PublishInfo) : Prop where
  handled : ∀ handler : FleetHandler,
    (fleetDispatch awsTemplateName info).1 = some handler ↔
      info.topicName = handler.topic awsTemplateName
  read : (fleetDispatch awsTemplateName info).2 ≤ info.topicName.length

/-- It does exactly when the name is no proper beginning and no continuation of a topic. -/
theorem fleet_law_iff (info : PublishInfo) :
    FleetLaw awsTemplateName info ↔
      ∀ handler : FleetHandler, ¬ Comparable info.topicName (handler.topic awsTemplateName) := by
  have every (handler : FleetHandler) : handler ∈ fleetHandlers := by cases handler <;> decide
  have chain := chain_law_iff info (FleetHandler.topic awsTemplateName) fleetHandlers (by decide)
    (fun handler _ => fleetTopic_isText awsTemplateName handler)
    (fun left _ right _ => fleetTopic_apart awsTemplateName left right)
  constructor
  · intro law handler
    exact chain.mp ⟨fun handler _ => law.handled handler, law.read⟩ handler (every handler)
  · intro clear
    have law := chain.mpr fun handler _ => clear handler
    exact ⟨fun handler => law.handled handler (every handler), law.read⟩

end Provisioning

section Jobs

/-- The branches of `iot_jobs_event_callback`. -/
inductive JobHandler where
  | getAccepted
  | startNextAccepted
  | updateAccepted
  deriving DecidableEq

def JobHandler.topic (thingName jobId : List UInt8) : JobHandler → List UInt8
  | .getAccepted => jobsGetAccepted thingName
  | .startNextAccepted => jobsStartNextAccepted thingName
  | .updateAccepted => jobsUpdateAccepted thingName jobId

/-- `strncmp(pTopicName, temp_topic, topicNameLength) == 0`. -/
def takes (info : PublishInfo) (topic : List UInt8) : Prop :=
  info.topicEqual topic info.topicName.length = true

instance (info : PublishInfo) (topic : List UInt8) : Decidable (takes info topic) :=
  inferInstanceAs (Decidable (_ = true))

variable (json : Json) (thingName : List UInt8)

/-- The branches a message runs, in their order. The first may return from the callback. -/
def jobDispatch (state : JobsState) (info : PublishInfo) : List JobHandler :=
  let first := getAcceptedBranch json thingName info state
  let second := startNextAcceptedBranch json thingName info first.2.1 first.2.2
  (if takes info (jobsGetAccepted thingName) then [.getAccepted] else []) ++
    if first.1 then []
    else (if takes info (jobsStartNextAccepted thingName) then [.startNextAccepted] else []) ++
      if takes info (jobsUpdateAccepted thingName second.jobIdForEventCallback) then
        [.updateAccepted]
      else []

/-- How far into the memory at the topic name the comparisons read. -/
def jobReads (state : JobsState) (info : PublishInfo) : Nat :=
  let first := getAcceptedBranch json thingName info state
  let second := startNextAcceptedBranch json thingName info first.2.1 first.2.2
  let reads (topic : List UInt8) :=
    strncmpReads info.topicName.length (info.topicName ++ info.behind) topic
  max (reads (jobsGetAccepted thingName))
    (if first.1 then 0
    else max (reads (jobsStartNextAccepted thingName))
      (reads (jobsUpdateAccepted thingName second.jobIdForEventCallback)))

/-- The job of the message is known already, or the list is full: the callback returns. -/
def Refused (state : JobsState) (info : PublishInfo) : Prop :=
  ∃ jobId, parsingGetJobAccepted json info.payload = some jobId ∧
    (isExistJobId state.awsJobIdList jobId = true ∨ addJobId state.awsJobIdList jobId = none)

/-- The first branch returns when it refuses the job of a message it took. -/
theorem getBranch_returns (state : JobsState) (info : PublishInfo) :
    (getAcceptedBranch json thingName info state).1 = true ↔
      takes info (jobsGetAccepted thingName) ∧ Refused json state info := by
  simp only [getAcceptedBranch, takes, Refused]
  by_cases taken : info.topicEqual (jobsGetAccepted thingName) info.topicName.length = true
  · rw [if_pos taken]
    cases parsingGetJobAccepted json info.payload with
    | none => simp
    | some jobId =>
      by_cases known : isExistJobId state.awsJobIdList jobId = true
      · simp [taken, known]
      · cases added : addJobId state.awsJobIdList jobId with
        | none => simp [taken, known, added]
        | some list => simp [taken, known, added]
  · simp [taken]

/-- The first branch sets its own flag only, and leaves the record. -/
theorem getBranch_leaves (state : JobsState) (info : PublishInfo) :
    let after := (getAcceptedBranch json thingName info state).2.2
    (after.recvedMqttGetJobAcceptMsg = true ↔
      state.recvedMqttGetJobAcceptMsg = true ∨ takes info (jobsGetAccepted thingName)) ∧
    after.recvedMqttStartNextJobAcceptMsg = state.recvedMqttStartNextJobAcceptMsg ∧
    after.recvedMqttJobUpdateAcceptMsg = state.recvedMqttJobUpdateAcceptMsg ∧
    after.executionParam = state.executionParam ∧
    after.isJobIdSetForEventCallback = state.isJobIdSetForEventCallback := by
  simp only [getAcceptedBranch, takes]
  by_cases taken : info.topicEqual (jobsGetAccepted thingName) info.topicName.length = true
  · rw [if_pos taken]
    cases parsingGetJobAccepted json info.payload with
    | none => simp [taken]
    | some jobId =>
      by_cases known : isExistJobId state.awsJobIdList jobId = true
      · simp [taken, known]
      · cases added : addJobId state.awsJobIdList jobId with
        | none => simp [taken, known, added]
        | some list => simp [taken, known, added]
  · simp [taken]

/-- The second branch sets its own flag only. -/
theorem startNextBranch_leaves (state : JobsState) (info : PublishInfo) (tempJobId : List UInt8) :
    let after := startNextAcceptedBranch json thingName info tempJobId state
    (after.recvedMqttStartNextJobAcceptMsg = true ↔
      state.recvedMqttStartNextJobAcceptMsg = true ∨
        takes info (jobsStartNextAccepted thingName)) ∧
    after.recvedMqttGetJobAcceptMsg = state.recvedMqttGetJobAcceptMsg ∧
    after.recvedMqttJobUpdateAcceptMsg = state.recvedMqttJobUpdateAcceptMsg := by
  simp only [startNextAcceptedBranch, takes]
  by_cases taken : info.topicEqual (jobsStartNextAccepted thingName) info.topicName.length = true
  · rw [if_pos taken]
    cases parsingStartNextJobAccepted json info.payload tempJobId with
    | none => simp [taken]
    | some job =>
      by_cases running : state.executionParam.isJobStarted = true
      · simp [taken, running]
      · simp [taken, running]
  · simp [taken]

/-- The state behind the first two branches. -/
def afterStartNext (state : JobsState) (info : PublishInfo) : JobsState :=
  let first := getAcceptedBranch json thingName info state
  startNextAcceptedBranch json thingName info first.2.1 first.2.2

/-- A guarded branch runs when its guard holds. -/
theorem mem_guarded (guard : Prop) [Decidable guard] (handler branch : JobHandler) :
    handler ∈ (if guard then [branch] else []) ↔ guard ∧ handler = branch := by
  by_cases holds : guard
  · simp [holds]
  · simp [holds]

/-- Which branches a message runs. -/
theorem mem_jobDispatch (state : JobsState) (info : PublishInfo) (handler : JobHandler) :
    handler ∈ jobDispatch json thingName state info ↔
      takes info (jobsGetAccepted thingName) ∧ handler = .getAccepted ∨
      ¬ (takes info (jobsGetAccepted thingName) ∧ Refused json state info) ∧
        (takes info (jobsStartNextAccepted thingName) ∧ handler = .startNextAccepted ∨
          takes info (jobsUpdateAccepted thingName
              (afterStartNext json thingName state info).jobIdForEventCallback) ∧
            handler = .updateAccepted) := by
  rw [← getBranch_returns json thingName state info]
  simp only [jobDispatch, afterStartNext]
  by_cases returned : (getAcceptedBranch json thingName info state).1 = true
  · rw [if_pos returned, List.append_nil, mem_guarded]
    simp [returned]
  · rw [if_neg returned, List.mem_append, List.mem_append, mem_guarded, mem_guarded, mem_guarded]
    simp [returned]

/-- The callback raises the flag of a handler exactly when it runs the handler. -/
theorem job_callback_runs (state : JobsState) (info : PublishInfo) :
    let logged := { state with sincePublish := info :: state.sincePublish }
    let after := iotJobsEventCallback json thingName state info
    let handlers := jobDispatch json thingName logged info
    (after.recvedMqttGetJobAcceptMsg = true ↔
      state.recvedMqttGetJobAcceptMsg = true ∨ .getAccepted ∈ handlers) ∧
    (after.recvedMqttStartNextJobAcceptMsg = true ↔
      state.recvedMqttStartNextJobAcceptMsg = true ∨ .startNextAccepted ∈ handlers) ∧
    (after.recvedMqttJobUpdateAcceptMsg = true ↔
      state.recvedMqttJobUpdateAcceptMsg = true ∨ .updateAccepted ∈ handlers) := by
  intro logged after handlers
  obtain ⟨getFlag, startKept, updateKept, _, _⟩ := getBranch_leaves json thingName logged info
  have returns := getBranch_returns json thingName logged info
  simp only [handlers, mem_jobDispatch, ← returns]
  simp only [after, iotJobsEventCallback, afterStartNext]
  generalize getAcceptedBranch json thingName info logged = first at *
  obtain ⟨startFlag, getKept, updateKept'⟩ :=
    startNextBranch_leaves json thingName first.2.2 info first.2.1
  cases returned : first.1 with
  | true => simp [getFlag, startKept, updateKept, logged]
  | false =>
    generalize startNextAcceptedBranch json thingName info first.2.1 first.2.2 = second at *
    by_cases third : takes info (jobsUpdateAccepted thingName second.jobIdForEventCallback)
    · have raised : updateAcceptedBranch thingName info second =
          { second with recvedMqttJobUpdateAcceptMsg := true } := if_pos third
      simp [third, raised, getFlag, startFlag, getKept, startKept, logged]
    · have kept : updateAcceptedBranch thingName info second = second := if_neg third
      simp [third, kept, getFlag, startFlag, getKept, startKept, updateKept, updateKept', logged]

/-- The jobs callback runs a handler exactly on its topic, and no two of them. -/
structure JobsLaw (state : JobsState) (info : PublishInfo) : Prop where
  handled : ∀ handler : JobHandler, handler ∈ jobDispatch json thingName state info ↔
    info.topicName = handler.topic thingName state.jobIdForEventCallback
  single : ∀ left ∈ jobDispatch json thingName state info,
    ∀ right ∈ jobDispatch json thingName state info, left = right
  read : jobReads json thingName state info ≤ info.topicName.length

/-- A name that a comparison takes for a topic without being that topic. -/
def TakenInPart (name topic : List UInt8) : Prop :=
  name ≠ topic ∧ (name <+: topic ∨ topic ++ [0] <+: name)

theorem takes_iff (info : PublishInfo) (topic : List UInt8) (text : IsText topic) :
    takes info topic ↔ info.topicName = topic ∨ TakenInPart info.topicName topic := by
  have received := strncmpEqual_received info.topicName info.behind topic text
  rw [takes, PublishInfo.topicEqual, received, TakenInPart]
  by_cases named : info.topicName = topic
  · rw [named]
    exact ⟨fun _ => Or.inl rfl, fun _ => Or.inl List.prefix_rfl⟩
  · exact ⟨fun taken => Or.inr ⟨named, taken⟩, fun either => (either.resolve_left named).2⟩

theorem getTopic_isText : IsText (jobsGetAccepted thingName) :=
  topicName_isText thingName .getAccepted

theorem startNextTopic_isText : IsText (jobsStartNextAccepted thingName) :=
  topicName_isText thingName .startNextAccepted

theorem updateTopic_isText (jobId : List UInt8) : IsText (jobsUpdateAccepted thingName jobId) :=
  topicName_isText thingName (.updateAccepted jobId)

/-- A topic that is taken for another, or is it, begins it. -/
theorem topic_taken (info : PublishInfo) (topic : List UInt8) (ownText : IsText info.topicName)
    (text : IsText topic) (taken : takes info topic) : info.topicName <+: topic := by
  rcases (takes_iff info topic text).mp taken with same | ⟨_, early | late⟩
  · exact same ▸ List.prefix_rfl
  · exact early
  · have terminated : 0 ∈ info.topicName := late.subset (by simp)
    exact absurd rfl (ownText 0 terminated)

/-- The topic of the pending jobs and that of the next job do not begin one another. -/
theorem get_startNext_apart : ¬ jobsGetAccepted thingName <+: jobsStartNextAccepted thingName ∧
    ¬ jobsStartNextAccepted thingName <+: jobsGetAccepted thingName := by
  constructor
  · intro early
    rw [jobsGetAccepted, jobsStartNextAccepted, jobsTopic_prefix] at early
    exact absurd early (by decide +kernel)
  · intro early
    rw [jobsGetAccepted, jobsStartNextAccepted, jobsTopic_prefix] at early
    exact absurd early (by decide +kernel)

/-- An update topic is neither of them. -/
theorem update_other (jobId : List UInt8) :
    jobsUpdateAccepted thingName jobId ≠ jobsGetAccepted thingName ∧
      jobsUpdateAccepted thingName jobId ≠ jobsStartNextAccepted thingName := by
  constructor
  · intro same
    have early : jobsUpdateAccepted thingName jobId <+: jobsGetAccepted thingName :=
      same ▸ List.prefix_rfl
    rw [jobsUpdateAccepted, jobsGetAccepted, jobsTopic_prefix, updateAccepted_tail] at early
    exact update_get_apart jobId _ (by decide +kernel) early
  · intro same
    have early : jobsUpdateAccepted thingName jobId <+: jobsStartNextAccepted thingName :=
      same ▸ List.prefix_rfl
    rw [jobsUpdateAccepted, jobsStartNextAccepted, jobsTopic_prefix, updateAccepted_tail] at early
    exact update_startNext_apart jobId _ (by decide +kernel) early

/-- The three topics differ. -/
theorem jobTopic_injective (jobId : List UInt8) (left right : JobHandler)
    (same : left.topic thingName jobId = right.topic thingName jobId) : left = right := by
  have getNext : jobsGetAccepted thingName ≠ jobsStartNextAccepted thingName := by
    intro same
    exact (get_startNext_apart thingName).1 (same ▸ List.prefix_rfl)
  obtain ⟨updateGet, updateNext⟩ := update_other thingName jobId
  cases left with
  | getAccepted =>
    cases right with
    | getAccepted => rfl
    | startNextAccepted => exact absurd same getNext
    | updateAccepted => exact absurd same.symm updateGet
  | startNextAccepted =>
    cases right with
    | getAccepted => exact absurd same.symm getNext
    | startNextAccepted => rfl
    | updateAccepted => exact absurd same.symm updateNext
  | updateAccepted =>
    cases right with
    | getAccepted => exact absurd same updateGet
    | startNextAccepted => exact absurd same updateNext
    | updateAccepted => rfl

/-- The state once a message on the start-next topic has handed over its job. -/
def handedOver (state : JobsState) (info : PublishInfo) : JobsState :=
  match parsingStartNextJobAccepted json info.payload [] with
  | none => state
  | some job =>
    if state.executionParam.isJobStarted then state
    else { state with executionParam := state.executionParam.takeOver job }

/-- The job id that is current at the third comparison. -/
def comparedJobId (state : JobsState) (info : PublishInfo) : List UInt8 :=
  if info.topicName = jobsStartNextAccepted thingName then
    (handedOver json state info).jobIdForEventCallback
  else state.jobIdForEventCallback

/-- A message the second branch does not take leaves the current id. -/
theorem id_kept (state : JobsState) (info : PublishInfo)
    (untaken : ¬ takes info (jobsStartNextAccepted thingName)) :
    (afterStartNext json thingName state info).jobIdForEventCallback =
      state.jobIdForEventCallback := by
  obtain ⟨_, _, _, record, idSet⟩ := getBranch_leaves json thingName state info
  have passed : afterStartNext json thingName state info =
      (getAcceptedBranch json thingName info state).2.2 := if_neg untaken
  rw [passed, JobsState.jobIdForEventCallback, record, idSet]
  rfl

/-- A message on the start-next topic hands over its job. -/
theorem id_handed (state : JobsState) (info : PublishInfo)
    (named : info.topicName = jobsStartNextAccepted thingName) :
    (afterStartNext json thingName state info).jobIdForEventCallback =
      (handedOver json state info).jobIdForEventCallback := by
  have notGet : ¬ takes info (jobsGetAccepted thingName) := by
    intro taken
    have early := topic_taken info _ (named ▸ startNextTopic_isText thingName)
      (getTopic_isText thingName) taken
    rw [named] at early
    exact (get_startNext_apart thingName).2 early
  have taken : info.topicEqual (jobsStartNextAccepted thingName) info.topicName.length = true :=
    (takes_iff info _ (startNextTopic_isText thingName)).mpr (Or.inl named)
  have first : getAcceptedBranch json thingName info state = (false, [], state) := if_neg notGet
  simp only [afterStartNext, first, handedOver, startNextAcceptedBranch]
  rw [if_pos taken]
  cases parsingStartNextJobAccepted json info.payload [] with
  | none => rfl
  | some job =>
    by_cases running : state.executionParam.isJobStarted = true
    · simp only [running, if_true]
      rfl
    · simp only [running]
      rfl

/-- The name is taken for no topic in part: not for the first two, and not for the update
topic of the id the callback compares last, unless it returns before. -/
structure JobsTopicClear (state : JobsState) (info : PublishInfo) : Prop where
  get : ¬ TakenInPart info.topicName (jobsGetAccepted thingName)
  startNext : ¬ TakenInPart info.topicName (jobsStartNextAccepted thingName)
  update : ¬ TakenInPart info.topicName
      (jobsUpdateAccepted thingName (comparedJobId json thingName state info)) ∨
    info.topicName = jobsGetAccepted thingName ∧ Refused json state info

/-- The comparisons over the received length never read behind the name. -/
theorem jobReads_inside (state : JobsState) (info : PublishInfo) :
    jobReads json thingName state info ≤ info.topicName.length := by
  have bound (topic : List UInt8) :
      strncmpReads info.topicName.length (info.topicName ++ info.behind) topic ≤
        info.topicName.length := strncmpReads_bound _ _ _
  simp only [jobReads]
  split
  · exact Nat.max_le.mpr ⟨bound _, Nat.zero_le _⟩
  · exact Nat.max_le.mpr ⟨bound _, Nat.max_le.mpr ⟨bound _, bound _⟩⟩

/-- The update topic compared last, as the dispatch law needs it: the branch runs exactly
on the update topic of the current id. -/
theorem update_exact (state : JobsState) (info : PublishInfo)
    (clear : JobsTopicClear json thingName state info)
    (startNext : takes info (jobsStartNextAccepted thingName) ↔
      info.topicName = jobsStartNextAccepted thingName)
    (continues : ¬ (info.topicName = jobsGetAccepted thingName ∧ Refused json state info)) :
    takes info (jobsUpdateAccepted thingName
        (afterStartNext json thingName state info).jobIdForEventCallback) ↔
      info.topicName = jobsUpdateAccepted thingName state.jobIdForEventCallback := by
  have whole := clear.update.resolve_right continues
  by_cases next : info.topicName = jobsStartNextAccepted thingName
  · rw [comparedJobId, if_pos next] at whole
    rw [id_handed json thingName state info next,
      takes_iff info _ (updateTopic_isText thingName _)]
    constructor
    · rintro (same | part)
      · exact absurd (same.symm.trans next) (update_other thingName _).2
      · exact absurd part whole
    · intro same
      exact absurd (same.symm.trans next) (update_other thingName _).2
  · rw [comparedJobId, if_neg next] at whole
    rw [id_kept json thingName state info (fun taken => next (startNext.mp taken)),
      takes_iff info _ (updateTopic_isText thingName _)]
    exact ⟨fun either => either.resolve_right whole, Or.inl⟩

/-- Under the law the first two branches run on their own topics only. -/
theorem law_exact (state : JobsState) (info : PublishInfo) (law : JobsLaw json thingName state info) :
    (takes info (jobsGetAccepted thingName) → info.topicName = jobsGetAccepted thingName) ∧
    (takes info (jobsStartNextAccepted thingName) →
      info.topicName = jobsStartNextAccepted thingName) := by
  have ran (handler : JobHandler) :=
    (mem_jobDispatch json thingName state info handler).symm.trans (law.handled handler)
  have get : takes info (jobsGetAccepted thingName) →
      info.topicName = jobsGetAccepted thingName :=
    fun taken => (ran .getAccepted).mp (Or.inl ⟨taken, rfl⟩)
  refine ⟨get, fun taken => ?_⟩
  by_cases returned : takes info (jobsGetAccepted thingName) ∧ Refused json state info
  · have named := get returned.1
    have early := topic_taken info _ (named ▸ getTopic_isText thingName)
      (startNextTopic_isText thingName) taken
    rw [named] at early
    exact absurd early (get_startNext_apart thingName).1
  · exact (ran .startNextAccepted).mp (Or.inr ⟨returned, Or.inl ⟨taken, rfl⟩⟩)

/-- Under the law a name that comes to the third comparison is not taken for the update
topic in part. -/
theorem law_update_clear (state : JobsState) (info : PublishInfo)
    (law : JobsLaw json thingName state info)
    (continues : ¬ (takes info (jobsGetAccepted thingName) ∧ Refused json state info)) :
    ¬ TakenInPart info.topicName
      (jobsUpdateAccepted thingName (comparedJobId json thingName state info)) := by
  intro part
  obtain ⟨_, startNext⟩ := law_exact json thingName state info law
  have named (jobId : List UInt8) (part : TakenInPart info.topicName
      (jobsUpdateAccepted thingName jobId))
      (compared : (afterStartNext json thingName state info).jobIdForEventCallback = jobId) :
      info.topicName = jobsUpdateAccepted thingName state.jobIdForEventCallback := by
    subst compared
    have taken := (takes_iff info _ (updateTopic_isText thingName _)).mpr (Or.inr part)
    exact (law.handled .updateAccepted).mp ((mem_jobDispatch json thingName state info _).mpr
      (Or.inr ⟨continues, Or.inr ⟨taken, rfl⟩⟩))
  by_cases next : info.topicName = jobsStartNextAccepted thingName
  · rw [comparedJobId, if_pos next] at part
    have update := named _ part (id_handed json thingName state info next)
    exact (update_other thingName _).2 (update.symm.trans next)
  · rw [comparedJobId, if_neg next] at part
    exact part.1 (named _ part
      (id_kept json thingName state info (fun taken => next (startNext taken))))

theorem clear_of_law (state : JobsState) (info : PublishInfo)
    (law : JobsLaw json thingName state info) : JobsTopicClear json thingName state info := by
  obtain ⟨get, startNext⟩ := law_exact json thingName state info law
  constructor
  · intro part
    exact part.1 (get ((takes_iff info _ (getTopic_isText thingName)).mpr (Or.inr part)))
  · intro part
    exact part.1
      (startNext ((takes_iff info _ (startNextTopic_isText thingName)).mpr (Or.inr part)))
  · by_cases returned : takes info (jobsGetAccepted thingName) ∧ Refused json state info
    · exact Or.inr ⟨get returned.1, returned.2⟩
    · exact Or.inl (law_update_clear json thingName state info law returned)

/-- A name that is taken for no topic in part runs the branch of its own topic alone. -/
theorem handled_of_clear (state : JobsState) (info : PublishInfo)
    (clear : JobsTopicClear json thingName state info) (handler : JobHandler) :
    handler ∈ jobDispatch json thingName state info ↔
      info.topicName = handler.topic thingName state.jobIdForEventCallback := by
  have get : takes info (jobsGetAccepted thingName) ↔
      info.topicName = jobsGetAccepted thingName :=
    (takes_iff info _ (getTopic_isText thingName)).trans
      ⟨fun either => either.resolve_right clear.get, Or.inl⟩
  have startNext : takes info (jobsStartNextAccepted thingName) ↔
      info.topicName = jobsStartNextAccepted thingName :=
    (takes_iff info _ (startNextTopic_isText thingName)).trans
      ⟨fun either => either.resolve_right clear.startNext, Or.inl⟩
  rw [mem_jobDispatch, get, startNext]
  by_cases returned : info.topicName = jobsGetAccepted thingName ∧ Refused json state info
  · have notNext : ¬ info.topicName = jobsStartNextAccepted thingName := fun next =>
      (get_startNext_apart thingName).1 ((returned.1.symm.trans next) ▸ List.prefix_rfl)
    have notUpdate : ¬ info.topicName =
        jobsUpdateAccepted thingName state.jobIdForEventCallback :=
      fun same => (update_other thingName _).1 (same.symm.trans returned.1)
    cases handler with
    | getAccepted => simp [JobHandler.topic, returned]
    | startNextAccepted => simp [JobHandler.topic, returned, returned.1 ▸ notNext]
    | updateAccepted => simp [JobHandler.topic, returned, returned.1 ▸ notUpdate]
  · rw [update_exact json thingName state info clear startNext returned]
    cases handler with
    | getAccepted => simp [JobHandler.topic]
    | startNextAccepted => simp [JobHandler.topic, returned]
    | updateAccepted => simp [JobHandler.topic, returned]

/-- The jobs callback keeps the law exactly when the name is taken for no topic in part. -/
theorem jobs_law_iff (state : JobsState) (info : PublishInfo) :
    JobsLaw json thingName state info ↔ JobsTopicClear json thingName state info := by
  constructor
  · exact clear_of_law json thingName state info
  · intro clear
    have handled := handled_of_clear json thingName state info clear
    refine ⟨handled, ?_, jobReads_inside json thingName state info⟩
    intro left leftRan right rightRan
    have leftNamed := (handled left).mp leftRan
    have rightNamed := (handled right).mp rightRan
    exact jobTopic_injective thingName _ left right (leftNamed.symm.trans rightNamed)

end Jobs

/-- Message dispatch by exact topic, in both callbacks: it holds of a message exactly when
its topic name is taken for no topic of the jobs session in part, and neither begins nor
continues a topic of the provisioning session. -/
theorem dispatch_exact_iff (json : Json) (thingName awsTemplateName : List UInt8)
    (state : JobsState) (info : PublishInfo) :
    (JobsLaw json thingName state info ↔ JobsTopicClear json thingName state info) ∧
    (FleetLaw awsTemplateName info ↔
      ∀ handler : FleetHandler, ¬ Comparable info.topicName (handler.topic awsTemplateName)) :=
  ⟨jobs_law_iff json thingName state info, fleet_law_iff awsTemplateName info⟩

/-- Names on which the two callbacks go wrong in opposite ways. -/
def beginningOfTopics : PublishInfo :=
  ⟨ascii "$aws/things/dev/jobs/", [], [], by decide +kernel⟩

def continuedCreateTopic : PublishInfo :=
  ⟨ascii "$aws/certificates/create/cbor/accepted/more", [], [], by decide +kernel⟩

def beginningOfCreateTopic : PublishInfo :=
  ⟨ascii "$aws/certificates/create", ascii "?", [], by decide +kernel⟩

/-- A common beginning of the topics runs all three handlers of the jobs callback, a
continued topic runs the handler of the create topic, and a beginning of that topic is
compared one byte past its end. -/
theorem inexact_dispatch :
    let jobs := JobsState.initial (fun _ => 0) (fun _ => 0xFF)
    jobDispatch JobBuffers.queuedJobJson (ascii "dev") jobs beginningOfTopics =
      [.getAccepted, .startNextAccepted, .updateAccepted] ∧
    ¬ JobsLaw JobBuffers.queuedJobJson (ascii "dev") jobs beginningOfTopics ∧
    (fleetDispatch (ascii "template") continuedCreateTopic).1 = some .createAccepted ∧
    ¬ FleetLaw (ascii "template") continuedCreateTopic ∧
    (fleetDispatch (ascii "template") beginningOfCreateTopic).2 = 25 ∧
    beginningOfCreateTopic.topicName.length = 24 ∧
    ¬ FleetLaw (ascii "template") beginningOfCreateTopic := by
  intro jobs
  have ran : jobDispatch JobBuffers.queuedJobJson (ascii "dev") jobs beginningOfTopics =
      [.getAccepted, .startNextAccepted, .updateAccepted] := by decide +kernel
  have created : (fleetDispatch (ascii "template") continuedCreateTopic).1 =
      some .createAccepted := by decide +kernel
  have read : (fleetDispatch (ascii "template") beginningOfCreateTopic).2 = 25 := by
    decide +kernel
  have size : beginningOfCreateTopic.topicName.length = 24 := by decide +kernel
  refine ⟨ran, ?_, created, ?_, read, size, ?_⟩
  · intro law
    have two := law.single .getAccepted (by rw [ran]; decide) .startNextAccepted (by rw [ran]; decide)
    cases two
  · intro law
    exact absurd ((law.handled .createAccepted).mp created) (by decide +kernel)
  · intro law
    have inside := law.read
    rw [read, size] at inside
    exact absurd inside (by decide)

end WiznetEaas.TopicDispatch
