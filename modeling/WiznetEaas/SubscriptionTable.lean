import WiznetEaas.CStrings
import WiznetEaas.Runs
import Mathlib.Data.Set.Insert

/-!
# The subscription table of mqtt_interface.c

The table keeps pointers, so a topic in it is what memory shows at the pointer. It is
meant as a set of topics. A call carries the strings in memory and what the broker
answers. What a store behind the last slot does to the structure is a parameter.
-/

namespace WiznetEaas.SubscriptionTable

open CStrings Runs

@[simp] abbrev mqttSubscriptionMaxNum : Nat := 5

abbrev Address := Nat

/-- A topic name. -/
abbrev Topic := List UInt8

/-- The strings in memory. -/
structure Strings where
  text : Address → Topic
  isText : ∀ address, IsText (text address)

/-- `MQTTSubscribeInfo_t`. -/
structure SubscribeInfo where
  qos : Nat
  pTopicFilter : Address
  topicFilterLength : Nat
  deriving DecidableEq

/-- The topic the MQTT library reads from an entry. -/
def SubscribeInfo.topic (strings : Strings) (info : SubscribeInfo) : Topic :=
  (strings.text info.pTopicFilter).take info.topicFilterLength

/-- The table in `g_mqtt_config`: the slots, with what lies behind them read in the same
way, the count, and whether a slot outside the array has been written. -/
structure MqttConfig where
  mqttSubscribeInfo : Nat → SubscribeInfo
  subscribeCount : Nat
  wroteOutside : Bool

/-- The calls, with what `MQTT_Subscribe` answers, and `MQTT_Unsubscribe` at each index. -/
inductive Request where
  | subscribe (qos : Nat) (subscribeTopic : Address) (subscribed : Bool)
  | unsubscribe (subscribeTopic : Address) (answered : Nat → Bool)
  | close

structure Call where
  strings : Strings
  request : Request

/-- What a call returns, the table it leaves, and the topics it has sent an unsubscribe
packet for. -/
structure Outcome where
  ret : Int
  config : MqttConfig
  sent : List Topic

/-- What a store behind the last slot does. -/
abbrev Spill := MqttConfig → SubscribeInfo → MqttConfig

variable (spill : Spill)

/-- Store an entry at the index of the count. -/
def storeEntry (config : MqttConfig) (info : SubscribeInfo) : MqttConfig :=
  if config.subscribeCount < mqttSubscriptionMaxNum then
    { config with
      mqttSubscribeInfo := fun slot =>
        if slot = config.subscribeCount then info else config.mqttSubscribeInfo slot }
  else { spill config info with wroteOutside := true }

/-- `mqtt_transport_subscribe`. The length is a 16-bit field and the count an 8-bit one. -/
def mqttTransportSubscribe (strings : Strings) (qos : Nat) (subscribeTopic : Address)
    (subscribed : Bool) (config : MqttConfig) : Outcome :=
  if config.subscribeCount > mqttSubscriptionMaxNum then ⟨-1, config, []⟩
  else
    let stored := storeEntry spill config
      ⟨qos, subscribeTopic, (strings.text subscribeTopic).length % 65536⟩
    if subscribed then
      ⟨0, { stored with subscribeCount := (stored.subscribeCount + 1) % 256 }, []⟩
    else ⟨-1, stored, []⟩

/-- The loop of `mqtt_transport_unsubscribe` from an index on. The count that bounds it is
lowered in it; the first argument bounds the passes that are left. -/
def unsubscribeLoop (strings : Strings) (subscribeTopic : Topic) (answered : Nat → Bool) :
    Nat → Nat → MqttConfig → Outcome
  | 0, _, config => ⟨0, config, []⟩
  | passes + 1, i, config =>
    if i < config.subscribeCount then
      let pTopic := strings.text (config.mqttSubscribeInfo i).pTopicFilter
      if strncmpEqual pTopic.length subscribeTopic pTopic then
        let packet := (config.mqttSubscribeInfo i).topic strings
        if answered i then
          let later := unsubscribeLoop strings subscribeTopic answered passes (i + 1)
            { config with subscribeCount := config.subscribeCount - 1 }
          { later with sent := packet :: later.sent }
        else ⟨-1, config, [packet]⟩
      else unsubscribeLoop strings subscribeTopic answered passes (i + 1) config
    else ⟨0, config, []⟩

def mqttTransportUnsubscribe (strings : Strings) (subscribeTopic : Address)
    (answered : Nat → Bool) (config : MqttConfig) : Outcome :=
  if config.subscribeCount = 0 then ⟨0, config, []⟩
  else
    unsubscribeLoop strings (strings.text subscribeTopic) answered config.subscribeCount 0 config

/-- `mqtt_transport_close`; what disconnecting returns is left out. -/
def mqttTransportClose (config : MqttConfig) : Outcome :=
  ⟨0, { config with subscribeCount := 0 }, []⟩

def Call.run (call : Call) (config : MqttConfig) : Outcome :=
  match call.request with
  | .subscribe qos subscribeTopic subscribed =>
    mqttTransportSubscribe spill call.strings qos subscribeTopic subscribed config
  | .unsubscribe subscribeTopic answered =>
    mqttTransportUnsubscribe call.strings subscribeTopic answered config
  | .close => mqttTransportClose config

/-- The set the table stands for, as the results of the calls tell: a successful subscribe
adds its topic, a successful unsubscribe removes it, and closing removes all. -/
def Call.topicsAfter (call : Call) (ret : Int) (topics : Set Topic) : Set Topic :=
  match call.request with
  | .subscribe _ subscribeTopic _ =>
    if ret = 0 then insert (call.strings.text subscribeTopic) topics else topics
  | .unsubscribe subscribeTopic _ =>
    if ret = 0 then topics \ {call.strings.text subscribeTopic} else topics
  | .close => ∅

/-- The table, the strings in memory at the last call, and the set. -/
structure Session where
  config : MqttConfig
  strings : Strings
  topics : Set Topic

def step (session : Session) (call : Call) : Session :=
  let outcome := call.run spill session.config
  ⟨outcome.config, call.strings, call.topicsAfter outcome.ret session.topics⟩

/-- The entries below the count hold exactly the topics of the set, the count stays
within the array, and so does every store. -/
structure Refines (session : Session) : Prop where
  holds : ∀ topic, topic ∈ session.topics ↔ ∃ slot, slot < session.config.subscribeCount ∧
    (session.config.mqttSubscribeInfo slot).topic session.strings = topic
  bounded : session.config.subscribeCount ≤ mqttSubscriptionMaxNum
  inside : session.config.wroteOutside = false

/-- A successful unsubscribe sends one packet for its topic if the set has it, and none
otherwise. -/
def SendsOnce (session : Session) (call : Call) : Prop :=
  match call.request with
  | .unsubscribe subscribeTopic answered =>
    let outcome := mqttTransportUnsubscribe call.strings subscribeTopic answered session.config
    let topic := call.strings.text subscribeTopic
    outcome.ret = 0 →
      (topic ∈ session.topics → outcome.sent = [topic]) ∧
        (topic ∉ session.topics → outcome.sent = [])
  | _ => True

/-- The entry's string begins the topic. -/
def Matches (strings : Strings) (topic : Topic) (info : SubscribeInfo) : Prop :=
  strings.text info.pTopicFilter <+: topic

/-- The strings the entries point at are those of the last call. -/
def Stable (session : Session) (call : Call) : Prop :=
  ∀ slot, slot < session.config.subscribeCount →
    call.strings.text (session.config.mqttSubscribeInfo slot).pTopicFilter =
      session.strings.text (session.config.mqttSubscribeInfo slot).pTopicFilter

/-- A subscribe finds a free slot, and its topic fits the length field. If the first entry
an unsubscribe matches is answered, this entry is the last one and has the very topic. -/
def Careful (session : Session) (call : Call) : Prop :=
  match call.request with
  | .subscribe _ subscribeTopic subscribed =>
    Stable session call ∧ session.config.subscribeCount < mqttSubscriptionMaxNum ∧
      (subscribed = true → (call.strings.text subscribeTopic).length < 65536)
  | .unsubscribe subscribeTopic answered =>
    Stable session call ∧ ∀ slot, slot < session.config.subscribeCount →
      Matches call.strings (call.strings.text subscribeTopic)
        (session.config.mqttSubscribeInfo slot) →
      (∀ earlier, earlier < slot → ¬ Matches call.strings (call.strings.text subscribeTopic)
        (session.config.mqttSubscribeInfo earlier)) →
      answered slot = true →
      slot + 1 = session.config.subscribeCount ∧
        call.strings.text (session.config.mqttSubscribeInfo slot).pTopicFilter =
          call.strings.text subscribeTopic
  | .close => True

/-- The refinement, with the lengths the entries keep. -/
structure Sound (session : Session) : Prop extends Refines session where
  lengths : ∀ slot, slot < session.config.subscribeCount →
    (session.config.mqttSubscribeInfo slot).topicFilterLength =
      (session.strings.text (session.config.mqttSubscribeInfo slot).pTopicFilter).length

/-- The comparison of the loop looks for entries that begin the topic. -/
theorem matches_iff (strings : Strings) (topic : Topic) (info : SubscribeInfo) :
    strncmpEqual (strings.text info.pTopicFilter).length topic (strings.text info.pTopicFilter) =
      true ↔ Matches strings topic info := by
  rw [strncmpEqual_comm, strncmpEqual_prefix _ _ (strings.isText _)]
  rfl

/-- An entry with the very topic matches. -/
theorem matches_of_same {strings : Strings} {topic : Topic} {info : SubscribeInfo}
    (same : strings.text info.pTopicFilter = topic) : Matches strings topic info := by
  subst same
  exact List.prefix_refl (strings.text info.pTopicFilter)

/-- With the whole length kept, the library reads the whole string. -/
theorem topic_whole (strings : Strings) (info : SubscribeInfo)
    (whole : info.topicFilterLength = (strings.text info.pTopicFilter).length) :
    info.topic strings = strings.text info.pTopicFilter := by
  rw [SubscribeInfo.topic, whole, List.take_length]

/-- What the loop has done when no entry before its index matched: it has found nothing,
its first packet was not answered, or it has removed the last entry. -/
structure LoopEnds (strings : Strings) (topic : Topic) (config : MqttConfig) (outcome : Outcome) :
    Prop where
  unanswered : outcome.ret ≠ 0 → outcome.config = config
  result : outcome.ret = 0 →
    (outcome.config = config ∧ outcome.sent = [] ∧ ∀ slot, slot < config.subscribeCount →
      ¬ Matches strings topic (config.mqttSubscribeInfo slot)) ∨
    ∃ last, last + 1 = config.subscribeCount ∧
      outcome.config = { config with subscribeCount := last } ∧
      strings.text (config.mqttSubscribeInfo last).pTopicFilter = topic ∧
      outcome.sent = [(config.mqttSubscribeInfo last).topic strings] ∧
      ∀ slot, slot < last → ¬ Matches strings topic (config.mqttSubscribeInfo slot)

/-- A loop whose index has reached the count is over. -/
theorem unsubscribeLoop_over (strings : Strings) (topic : Topic) (answered : Nat → Bool)
    (passes i : Nat) (config : MqttConfig) (reached : config.subscribeCount ≤ i) :
    unsubscribeLoop strings topic answered passes i config = ⟨0, config, []⟩ := by
  cases passes with
  | zero => rfl
  | succ passes => rw [unsubscribeLoop, if_neg (by omega)]

/-- The loop, by induction on the passes that are left. -/
theorem unsubscribeLoop_ends (strings : Strings) (topic : Topic) (answered : Nat → Bool)
    (config : MqttConfig)
    (careful : ∀ slot, slot < config.subscribeCount →
      Matches strings topic (config.mqttSubscribeInfo slot) →
      (∀ earlier, earlier < slot → ¬ Matches strings topic (config.mqttSubscribeInfo earlier)) →
      answered slot = true → slot + 1 = config.subscribeCount ∧
        strings.text (config.mqttSubscribeInfo slot).pTopicFilter = topic)
    (passes i : Nat) (enough : config.subscribeCount ≤ passes + i)
    (unmatched : ∀ earlier, earlier < i →
      ¬ Matches strings topic (config.mqttSubscribeInfo earlier)) :
    LoopEnds strings topic config (unsubscribeLoop strings topic answered passes i config) := by
  induction passes generalizing i with
  | zero =>
    exact ⟨fun _ => rfl, fun _ => Or.inl ⟨rfl, rfl, fun slot below => unmatched slot (by omega)⟩⟩
  | succ passes inductionHypothesis =>
    rw [unsubscribeLoop]
    by_cases inTable : i < config.subscribeCount
    · rw [if_pos inTable]
      by_cases found : Matches strings topic (config.mqttSubscribeInfo i)
      · have equal := (matches_iff strings topic (config.mqttSubscribeInfo i)).mpr found
        simp only [if_pos equal]
        cases answer : answered i with
        | false =>
          simp only [Bool.false_eq_true, if_false]
          exact ⟨fun _ => rfl, by rintro ⟨⟩⟩
        | true =>
          obtain ⟨isLast, same⟩ := careful i inTable found unmatched answer
          have shorter : config.subscribeCount - 1 ≤ i + 1 := by omega
          rw [if_pos rfl, unsubscribeLoop_over strings topic answered passes (i + 1)
            { config with subscribeCount := config.subscribeCount - 1 } shorter]
          refine ⟨fun failed => absurd rfl failed,
            fun _ => Or.inr ⟨i, isLast, ?_, same, rfl, unmatched⟩⟩
          simp only [← isLast, Nat.add_sub_cancel]
      · have unequal := mt (matches_iff strings topic (config.mqttSubscribeInfo i)).mp found
        simp only [if_neg unequal]
        refine inductionHypothesis (i + 1) (by omega) ?_
        intro earlier before
        rcases Nat.lt_succ_iff_lt_or_eq.mp before with below | rfl
        · exact unmatched earlier below
        · exact found
    · rw [if_neg inTable]
      exact ⟨fun _ => rfl, fun _ => Or.inl ⟨rfl, rfl, fun slot below => unmatched slot (by omega)⟩⟩

/-- The whole call. -/
theorem mqttTransportUnsubscribe_ends (strings : Strings) (subscribeTopic : Address)
    (answered : Nat → Bool) (config : MqttConfig)
    (careful : ∀ slot, slot < config.subscribeCount →
      Matches strings (strings.text subscribeTopic) (config.mqttSubscribeInfo slot) →
      (∀ earlier, earlier < slot →
        ¬ Matches strings (strings.text subscribeTopic) (config.mqttSubscribeInfo earlier)) →
      answered slot = true → slot + 1 = config.subscribeCount ∧
        strings.text (config.mqttSubscribeInfo slot).pTopicFilter = strings.text subscribeTopic) :
    LoopEnds strings (strings.text subscribeTopic) config
      (mqttTransportUnsubscribe strings subscribeTopic answered config) := by
  rw [mqttTransportUnsubscribe]
  split
  next empty =>
    exact ⟨fun _ => rfl, fun _ => Or.inl ⟨rfl, rfl, fun slot below => by omega⟩⟩
  next =>
    exact unsubscribeLoop_ends strings _ answered config careful _ 0 (by omega)
      fun earlier before => absurd before (Nat.not_lt_zero earlier)

/-- Before a call on stable strings, the set is what the entries point at. -/
theorem Sound.entries {session : Session} {call : Call} (sound : Sound session)
    (stable : Stable session call) (topic : Topic) :
    topic ∈ session.topics ↔ ∃ slot, slot < session.config.subscribeCount ∧
      call.strings.text (session.config.mqttSubscribeInfo slot).pTopicFilter = topic := by
  rw [sound.holds]
  constructor
  · rintro ⟨slot, below, rfl⟩
    exact ⟨slot, below, by rw [stable slot below, topic_whole _ _ (sound.lengths slot below)]⟩
  · rintro ⟨slot, below, rfl⟩
    exact ⟨slot, below, by rw [stable slot below, topic_whole _ _ (sound.lengths slot below)]⟩

/-- A table whose entries point at the topics of the set refines it. -/
theorem sound_of_entries (session : Session)
    (lengths : ∀ slot, slot < session.config.subscribeCount →
      (session.config.mqttSubscribeInfo slot).topicFilterLength =
        (session.strings.text (session.config.mqttSubscribeInfo slot).pTopicFilter).length)
    (entries : ∀ topic, topic ∈ session.topics ↔ ∃ slot, slot < session.config.subscribeCount ∧
      session.strings.text (session.config.mqttSubscribeInfo slot).pTopicFilter = topic)
    (bounded : session.config.subscribeCount ≤ mqttSubscriptionMaxNum)
    (inside : session.config.wroteOutside = false) : Sound session := by
  refine ⟨⟨fun topic => (entries topic).trans ?_, bounded, inside⟩, lengths⟩
  constructor
  · rintro ⟨slot, below, rfl⟩
    exact ⟨slot, below, topic_whole _ _ (lengths slot below)⟩
  · rintro ⟨slot, below, rfl⟩
    exact ⟨slot, below, (topic_whole _ _ (lengths slot below)).symm⟩

/-- The lengths the entries keep are those of stable strings. -/
theorem Sound.stable_lengths {session : Session} {call : Call} (sound : Sound session)
    (stable : Stable session call) (slot : Nat) (below : slot < session.config.subscribeCount) :
    (session.config.mqttSubscribeInfo slot).topicFilterLength =
      (call.strings.text (session.config.mqttSubscribeInfo slot).pTopicFilter).length := by
  rw [stable slot below, sound.lengths slot below]

/-- A subscribe that finds a free slot. -/
theorem subscribe_sound (session : Session) (strings : Strings) (qos : Nat)
    (subscribeTopic : Address) (subscribed : Bool) (sound : Sound session)
    (careful : Careful session ⟨strings, .subscribe qos subscribeTopic subscribed⟩) :
    Sound (step spill session ⟨strings, .subscribe qos subscribeTopic subscribed⟩) := by
  obtain ⟨stable, room, fits⟩ := careful
  have lengths := sound.stable_lengths stable
  have entries := sound.entries stable
  dsimp only at lengths entries fits
  have free : ¬ session.config.subscribeCount > mqttSubscriptionMaxNum := by omega
  simp only [step, Call.run, Call.topicsAfter, mqttTransportSubscribe, if_neg free, storeEntry,
    if_pos room]
  cases subscribed with
  | false =>
    simp only [Bool.false_eq_true, if_false]
    refine sound_of_entries _ ?_ ?_ (Nat.le_of_lt room) sound.inside
    · intro slot below
      simp only [if_neg (Nat.ne_of_lt below)]
      exact lengths slot below
    · intro topic
      rw [if_neg (by decide), entries topic]
      exact exists_congr fun slot => and_congr_right fun below => by
        simp only [if_neg (Nat.ne_of_lt below)]
  | true =>
    have count : (session.config.subscribeCount + 1) % 256 = session.config.subscribeCount + 1 :=
      Nat.mod_eq_of_lt (Nat.lt_of_lt_of_le (Nat.succ_lt_succ room) (by decide))
    simp only [if_true, count]
    refine sound_of_entries _ ?_ ?_ room sound.inside
    · intro slot below
      rcases Nat.lt_succ_iff_lt_or_eq.mp below with old | new
      · simp only [if_neg (Nat.ne_of_lt old)]
        exact lengths slot old
      · simp only [if_pos new]
        exact Nat.mod_eq_of_lt (fits rfl)
    · intro topic
      rw [Set.mem_insert_iff, entries topic]
      constructor
      · rintro (rfl | ⟨slot, below, rfl⟩)
        · exact ⟨session.config.subscribeCount, Nat.lt_succ_self _, by simp⟩
        · refine ⟨slot, Nat.lt_succ_of_lt below, ?_⟩
          simp only [if_neg (Nat.ne_of_lt below)]
      · rintro ⟨slot, below, rfl⟩
        rcases Nat.lt_succ_iff_lt_or_eq.mp below with old | new
        · refine Or.inr ⟨slot, old, ?_⟩
          simp only [if_neg (Nat.ne_of_lt old)]
        · refine Or.inl ?_
          simp only [if_pos new]

/-- An unsubscribe whose first answered match is the last entry. -/
theorem unsubscribe_sound (session : Session) (strings : Strings) (subscribeTopic : Address)
    (answered : Nat → Bool) (sound : Sound session)
    (careful : Careful session ⟨strings, .unsubscribe subscribeTopic answered⟩) :
    Sound (step spill session ⟨strings, .unsubscribe subscribeTopic answered⟩) := by
  obtain ⟨stable, single⟩ := careful
  have lengths := sound.stable_lengths stable
  have entries := sound.entries stable
  dsimp only at lengths entries single
  have ends := mqttTransportUnsubscribe_ends strings subscribeTopic answered session.config single
  change Sound ⟨(mqttTransportUnsubscribe strings subscribeTopic answered session.config).config,
    strings, if (mqttTransportUnsubscribe strings subscribeTopic answered session.config).ret = 0
      then session.topics \ {strings.text subscribeTopic} else session.topics⟩
  by_cases done : (mqttTransportUnsubscribe strings subscribeTopic answered session.config).ret = 0
  · rw [if_pos done]
    rcases ends.result done with ⟨same, _, unmatched⟩ | ⟨last, isLast, shorter, here, _, unmatched⟩
    · rw [same]
      refine sound_of_entries _ lengths ?_ sound.bounded sound.inside
      intro topic
      rw [Set.mem_sdiff, Set.mem_singleton_iff, entries topic]
      constructor
      · rintro ⟨present, _⟩
        exact present
      · rintro ⟨slot, below, rfl⟩
        refine ⟨⟨slot, below, rfl⟩, fun same => unmatched slot below (matches_of_same same)⟩
    · rw [shorter]
      have bounded := sound.bounded
      refine sound_of_entries _ (fun slot below => lengths slot (by dsimp only at below; omega)) ?_
        (by dsimp only; omega) sound.inside
      intro topic
      rw [Set.mem_sdiff, Set.mem_singleton_iff, entries topic]
      constructor
      · rintro ⟨⟨slot, below, rfl⟩, other⟩
        refine ⟨slot, ?_, rfl⟩
        have notLast : slot ≠ last := by
          rintro rfl
          exact other here
        dsimp only
        omega
      · rintro ⟨slot, below, rfl⟩
        dsimp only at below
        refine ⟨⟨slot, by omega, rfl⟩, fun same => unmatched slot below (matches_of_same same)⟩
  · rw [if_neg done, ends.unanswered done]
    exact sound_of_entries _ lengths entries sound.bounded sound.inside

/-- A careful call keeps the refinement. -/
theorem step_sound (session : Session) (call : Call) (sound : Sound session)
    (careful : Careful session call) : Sound (step spill session call) := by
  obtain ⟨strings, request⟩ := call
  cases request with
  | subscribe qos subscribeTopic subscribed =>
    exact subscribe_sound spill session strings qos subscribeTopic subscribed sound careful
  | unsubscribe subscribeTopic answered =>
    exact unsubscribe_sound spill session strings subscribeTopic answered sound careful
  | close =>
    refine sound_of_entries _ (by rintro _ ⟨⟩) ?_ (Nat.zero_le _) sound.inside
    intro topic
    constructor
    · rintro ⟨⟩
    · rintro ⟨_, ⟨⟩, _⟩

/-- A careful unsubscribe sends its packet once. -/
theorem careful_sends (session : Session) (call : Call) (sound : Sound session)
    (careful : Careful session call) : SendsOnce session call := by
  obtain ⟨strings, request⟩ := call
  cases request with
  | subscribe => exact True.intro
  | close => exact True.intro
  | unsubscribe subscribeTopic answered =>
    obtain ⟨stable, single⟩ := careful
    have lengths := sound.stable_lengths stable
    have entries := sound.entries stable
    dsimp only at lengths entries single
    have ends := mqttTransportUnsubscribe_ends strings subscribeTopic answered session.config single
    intro done
    rcases ends.result done with ⟨_, nothing, unmatched⟩ | ⟨last, isLast, _, here, packet, _⟩
    · refine ⟨fun present => ?_, fun _ => nothing⟩
      obtain ⟨slot, below, same⟩ := (entries _).mp present
      exact absurd (matches_of_same same) (unmatched slot below)
    · have below : last < session.config.subscribeCount := by omega
      refine ⟨fun _ => ?_, fun absent => absurd ((entries _).mpr ⟨last, below, here⟩) absent⟩
      rw [packet, topic_whole strings _ (lengths last below), here]

/-- The table before the first call. -/
structure Fresh (session : Session) : Prop where
  subscribeCount : session.config.subscribeCount = 0
  wroteOutside : session.config.wroteOutside = false
  topics : session.topics = ∅

theorem Fresh.sound {session : Session} (fresh : Fresh session) : Sound session := by
  have none_below (slot : Nat) : ¬ slot < session.config.subscribeCount := by
    rw [fresh.subscribeCount]
    exact Nat.not_lt_zero slot
  refine sound_of_entries session (fun slot below => absurd below (none_below slot)) ?_ ?_
    fresh.wroteOutside
  · intro topic
    rw [fresh.topics]
    constructor
    · rintro ⟨⟩
    · rintro ⟨slot, below, _⟩
      exact absurd below (none_below slot)
  · rw [fresh.subscribeCount]
    exact Nat.zero_le _

/-- Careful calls keep the table a set of topics in every state of a run. -/
theorem table_refines_set (session : Session) (calls : List Call) (fresh : Fresh session)
    (careful : Along (step spill) Careful session calls) :
    Refines (execute (step spill) session calls) ∧
      Along (step spill) SendsOnce session calls :=
  ⟨(execute_invariant (step spill) Sound Careful (step_sound spill) session calls fresh.sound
      careful).toRefines,
    along_invariant (step spill) Sound Careful SendsOnce (step_sound spill) careful_sends session
      calls fresh.sound careful⟩

/-- The loop leaves the slots alone and never lowers the count below its index. -/
theorem unsubscribeLoop_keeps (strings : Strings) (topic : Topic) (answered : Nat → Bool)
    (passes i : Nat) (config : MqttConfig) :
    (unsubscribeLoop strings topic answered passes i config).config.mqttSubscribeInfo =
        config.mqttSubscribeInfo ∧
      min i config.subscribeCount ≤
        (unsubscribeLoop strings topic answered passes i config).config.subscribeCount := by
  induction passes generalizing i config with
  | zero => exact ⟨rfl, Nat.min_le_right _ _⟩
  | succ passes inductionHypothesis =>
    rw [unsubscribeLoop]
    split
    next inTable =>
      dsimp only
      split
      next =>
        split
        next =>
          obtain ⟨slots, count⟩ := inductionHypothesis (i + 1)
            { config with subscribeCount := config.subscribeCount - 1 }
          exact ⟨slots, Nat.le_trans (by dsimp only; omega) count⟩
        next => exact ⟨rfl, Nat.min_le_right _ _⟩
      next =>
        obtain ⟨slots, count⟩ := inductionHypothesis (i + 1) config
        exact ⟨slots, Nat.le_trans (by omega) count⟩
    next => exact ⟨rfl, Nat.min_le_right _ _⟩

/-- An answered first match is followed by the loop on the shorter table. -/
theorem unsubscribeLoop_first (strings : Strings) (topic : Topic) (answered : Nat → Bool)
    (config : MqttConfig) (slot : Nat) (inTable : slot < config.subscribeCount)
    (found : Matches strings topic (config.mqttSubscribeInfo slot)) (answer : answered slot = true)
    (unmatched : ∀ earlier, earlier < slot →
      ¬ Matches strings topic (config.mqttSubscribeInfo earlier))
    (passes i : Nat) (before : i ≤ slot) (enough : slot < passes + i) :
    ∃ left later, later = unsubscribeLoop strings topic answered left (slot + 1)
        { config with subscribeCount := config.subscribeCount - 1 } ∧
      unsubscribeLoop strings topic answered passes i config =
        ⟨later.ret, later.config,
          (config.mqttSubscribeInfo slot).topic strings :: later.sent⟩ := by
  induction passes generalizing i with
  | zero => omega
  | succ passes inductionHypothesis =>
    rw [unsubscribeLoop, if_pos (by omega)]
    rcases Nat.eq_or_lt_of_le before with rfl | earlier
    · have equal := (matches_iff strings topic (config.mqttSubscribeInfo i)).mpr found
      simp only [if_pos equal, answer, if_true]
      exact ⟨passes, _, rfl, rfl⟩
    · have unequal := mt (matches_iff strings topic (config.mqttSubscribeInfo i)).mp
        (unmatched i earlier)
      simp only [if_neg unequal]
      exact inductionHypothesis (i + 1) earlier (by omega)

/-- On stable strings, an unsubscribe that reports success without being careful removes
the wrong entry or sends the wrong packet. -/
theorem careless_unsubscribe_breaks (session : Session) (strings : Strings)
    (subscribeTopic : Address) (answered : Nat → Bool) (sound : Sound session)
    (stable : Stable session ⟨strings, .unsubscribe subscribeTopic answered⟩) (slot : Nat)
    (inTable : slot < session.config.subscribeCount)
    (found : Matches strings (strings.text subscribeTopic) (session.config.mqttSubscribeInfo slot))
    (unmatched : ∀ earlier, earlier < slot → ¬ Matches strings (strings.text subscribeTopic)
      (session.config.mqttSubscribeInfo earlier))
    (answer : answered slot = true)
    (careless : ¬ (slot + 1 = session.config.subscribeCount ∧
      strings.text (session.config.mqttSubscribeInfo slot).pTopicFilter =
        strings.text subscribeTopic))
    (done : (mqttTransportUnsubscribe strings subscribeTopic answered session.config).ret = 0) :
    ¬ (SendsOnce session ⟨strings, .unsubscribe subscribeTopic answered⟩ ∧
      Refines (step spill session ⟨strings, .unsubscribe subscribeTopic answered⟩)) := by
  rintro ⟨sends, refines⟩
  have lengths := sound.stable_lengths stable
  have entries := sound.entries stable
  dsimp only at lengths entries
  have whole := topic_whole strings _ (lengths slot inTable)
  have occupied : session.config.subscribeCount ≠ 0 := by omega
  obtain ⟨left, later, ran, loop⟩ := unsubscribeLoop_first strings (strings.text subscribeTopic) answered
    session.config slot inTable found answer unmatched session.config.subscribeCount 0
    (Nat.zero_le _) (by omega)
  have call : mqttTransportUnsubscribe strings subscribeTopic answered session.config = _ :=
    (if_neg occupied).trans loop
  obtain ⟨slots, count⟩ := unsubscribeLoop_keeps strings (strings.text subscribeTopic) answered left
    (slot + 1) { session.config with subscribeCount := session.config.subscribeCount - 1 }
  rw [← ran] at slots count
  by_cases same : strings.text (session.config.mqttSubscribeInfo slot).pTopicFilter =
      strings.text subscribeTopic
  · have notLast : slot + 1 ≠ session.config.subscribeCount := fun last => careless ⟨last, same⟩
    have removed : strings.text subscribeTopic ∉
        (step spill session ⟨strings, .unsubscribe subscribeTopic answered⟩).topics := by
      change _ ∉ if (mqttTransportUnsubscribe strings subscribeTopic answered session.config).ret = 0
        then session.topics \ {strings.text subscribeTopic} else session.topics
      rw [if_pos done, Set.mem_sdiff, Set.mem_singleton_iff]
      exact fun kept => kept.2 rfl
    refine removed ((refines.holds _).mpr ⟨slot, ?_, ?_⟩)
    · change slot < (mqttTransportUnsubscribe strings subscribeTopic answered
        session.config).config.subscribeCount
      rw [call]
      dsimp only at count ⊢
      omega
    · change SubscribeInfo.topic strings ((mqttTransportUnsubscribe strings subscribeTopic answered
        session.config).config.mqttSubscribeInfo slot) = _
      rw [call]
      dsimp only at slots ⊢
      rw [slots, whole, same]
  · have sent := sends done
    rw [call] at sent
    dsimp only at sent
    by_cases present : strings.text subscribeTopic ∈ session.topics
    · have head := List.head_eq_of_cons_eq (sent.1 present)
      rw [whole] at head
      exact same head
    · exact List.cons_ne_nil _ _ (sent.2 present)

/-- A subscribe on a full table writes behind it. -/
theorem full_subscribe_breaks (session : Session) (strings : Strings) (qos : Nat)
    (subscribeTopic : Address) (subscribed : Bool)
    (full : session.config.subscribeCount = mqttSubscriptionMaxNum) :
    ¬ Refines (step spill session ⟨strings, .subscribe qos subscribeTopic subscribed⟩) := by
  intro refines
  have inside := refines.inside
  have taken : ¬ session.config.subscribeCount > mqttSubscriptionMaxNum := by omega
  have behind : ¬ session.config.subscribeCount < mqttSubscriptionMaxNum := by omega
  simp only [step, Call.run, mqttTransportSubscribe, if_neg taken, storeEntry, if_neg behind]
    at inside
  cases subscribed <;> cases inside

/-- The two topics of `processCreateCertAndKey`. -/
def createTopics : Strings where
  text address :=
    if address = 0 then ascii "$aws/certificates/create/cbor/accepted"
    else ascii "$aws/certificates/create/cbor/rejected"
  isText address := by
    split <;> simp only [IsText] <;> decide +kernel

/-- A session that has not begun. -/
def newSession : Session := ⟨⟨fun _ => ⟨0, 0, 0⟩, 0, false⟩, createTopics, ∅⟩

/-- Both topics are subscribed, and unsubscribed from the last one on. -/
def lastFirst : List Call :=
  [⟨createTopics, .subscribe 1 0 true⟩, ⟨createTopics, .subscribe 1 1 true⟩,
    ⟨createTopics, .unsubscribe 1 fun _ => true⟩, ⟨createTopics, .unsubscribe 0 fun _ => true⟩]

theorem last_first_refines :
    Refines (execute (step fun config _ => config) newSession lastFirst) ∧
      Along (step fun config _ => config) SendsOnce newSession lastFirst := by
  apply table_refines_set (fun config _ => config) newSession lastFirst ⟨rfl, rfl, rfl⟩
  refine ⟨⟨nofun, by decide, fun _ => by decide +kernel⟩,
    ⟨fun _ _ => rfl, by decide, fun _ => by decide +kernel⟩, ⟨fun _ _ => rfl, ?_⟩,
    ⟨fun _ _ => rfl, ?_⟩, True.intro⟩
  · intro slot below found _ _
    have inTable : slot < 2 := below
    rcases (by omega : slot = 0 ∨ slot = 1) with rfl | rfl
    · have differs : ¬ createTopics.text 0 <+: createTopics.text 1 := by decide +kernel
      exact absurd found differs
    · exact ⟨rfl, rfl⟩
  · intro slot below _ _ _
    have first : slot = 0 := Nat.lt_one_iff.mp below
    subst first
    exact ⟨rfl, rfl⟩

/-- The first of two topics is unsubscribed, and the second leaves the table. -/
theorem first_topic_stays :
    ¬ (∀ (spill : Spill) (session : Session) (calls : List Call), Fresh session →
      Refines (execute (step spill) session calls) ∧
        Along (step spill) SendsOnce session calls) := by
  intro refines
  have holds := (refines (fun config _ => config) newSession
    [⟨createTopics, .subscribe 1 0 true⟩, ⟨createTopics, .subscribe 1 1 true⟩,
      ⟨createTopics, .unsubscribe 0 fun _ => true⟩] ⟨rfl, rfl, rfl⟩).1.holds
    (createTopics.text 0)
  have stays := holds.mpr ⟨0, by decide +kernel, by decide +kernel⟩
  exact stays.2 rfl

end WiznetEaas.SubscriptionTable
