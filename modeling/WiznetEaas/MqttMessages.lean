import WiznetEaas.CStrings

/-!
# Incoming PUBLISH messages

The MQTT library hands a callback pointers into its receive buffer. The topic name
has no terminator, so a comparison may read on into what lies behind it.
-/

namespace WiznetEaas.MqttMessages

open CStrings

@[simp] abbrev mqttBufMaxSize : Nat := 1024 * 25

/-- `MQTTPublishInfo_t`: the topic name, the bytes that follow it in the buffer, and
the payload. -/
structure PublishInfo where
  topicName : List UInt8
  behind : List UInt8
  payload : List UInt8
  inBuffer : topicName.length + payload.length ≤ mqttBufMaxSize

/-- `strncmp` of the received topic name with a topic, over the given count. -/
def PublishInfo.topicEqual (info : PublishInfo) (topic : List UInt8) (count : Nat) : Bool :=
  strncmpEqual count (info.topicName ++ info.behind) topic

/-- A topic with a name in it, as `sprintf` writes it. -/
def topicOf (head name tail : List UInt8) : List UInt8 := head ++ cText name ++ tail

/-- A comparison over a shared beginning goes on behind it. -/
theorem strncmpEqual_append (common left right : List UInt8) (count : Nat) (text : IsText common) :
    strncmpEqual (common.length + count) (common ++ left) (common ++ right) =
      strncmpEqual count left right := by
  induction common with
  | nil => rw [List.length_nil, Nat.zero_add, List.nil_append, List.nil_append]
  | cons byte rest ih =>
    have nonzero : byte ≠ 0 := text byte List.mem_cons_self
    have restText : IsText rest := fun other member => text other (List.mem_cons_of_mem byte member)
    have shape : (byte :: rest).length + count = (rest.length + count) + 1 := by
      rw [List.length_cons, Nat.add_right_comm]
    rw [shape, List.cons_append, List.cons_append, strncmpEqual, ih restText]
    simp [nonzero]

/-- A topic matches itself over its whole length, whatever lies behind it. -/
theorem topicEqual_self (topic behind : List UInt8) (text : IsText topic) :
    strncmpEqual topic.length (topic ++ behind) topic = true := by
  have whole := strncmpEqual_append topic behind [] 0 text
  rw [Nat.add_zero, List.append_nil] at whole
  rw [whole]
  rfl

/-- A comparison over the length of the topic name does not read on behind it. -/
theorem topicEqual_own (info : PublishInfo) (topic : List UInt8) (text : IsText info.topicName) :
    info.topicEqual topic info.topicName.length = true ↔ info.topicName <+: topic := by
  rw [← strncmpEqual_prefix info.topicName topic text, PublishInfo.topicEqual]
  suffices same : ∀ left right : List UInt8, IsText left →
      strncmpEqual left.length (left ++ info.behind) right =
        strncmpEqual left.length left right by
    rw [same info.topicName topic text]
  intro left
  induction left with
  | nil =>
    intro right _
    rw [List.length_nil, strncmpEqual, strncmpEqual]
  | cons byte rest ih =>
    intro right leftText
    have restText : IsText rest := fun other member =>
      leftText other (List.mem_cons_of_mem byte member)
    cases right with
    | nil => rw [List.cons_append, List.length_cons, strncmpEqual, strncmpEqual]
    | cons other tail =>
      rw [List.cons_append, List.length_cons, strncmpEqual, strncmpEqual, ih tail restText]

/-- Strings that differ behind a shared beginning do not match. -/
theorem strncmpEqual_differs (common left right : List UInt8) (first second : UInt8) (count : Nat)
    (text : IsText common) (reached : common.length < count) (differs : first ≠ second) :
    strncmpEqual count (common ++ first :: left) (common ++ second :: right) = false := by
  obtain ⟨more, rfl⟩ : ∃ more, count = common.length + (more + 1) :=
    ⟨count - common.length - 1, by omega⟩
  rw [strncmpEqual_append common _ _ _ text, strncmpEqual]
  simp [differs]

/-- If a name and what follows it begin a topic, the first level of the topic is that name,
provided the name is one level, or what follows it is as long as the rest of the topic. -/
theorem first_level (separator : UInt8) (name level rest tail : List UInt8)
    (single : separator ∉ level) (whole : separator ∉ name ∨ tail.length ≤ rest.length)
    (early : name ++ separator :: rest <+: level ++ separator :: tail) :
    name = level ∧ rest <+: tail := by
  induction name generalizing level with
  | nil =>
    cases level with
    | nil => exact ⟨rfl, (List.cons_prefix_cons.mp early).2⟩
    | cons byte more =>
      have same := (List.cons_prefix_cons.mp early).1
      exact absurd (List.mem_cons.mpr (.inl same)) single
  | cons byte more ih =>
    cases level with
    | nil =>
      have same := (List.cons_prefix_cons.mp early).1
      rcases whole with oneLevel | long
      · exact absurd (List.mem_cons.mpr (.inl same.symm)) oneLevel
      · have short := early.length_le
        simp only [List.length_append, List.length_cons, List.length_nil] at short
        omega
    | cons other later =>
      obtain ⟨same, early⟩ := List.cons_prefix_cons.mp early
      have later := ih later (fun member => single (List.mem_cons_of_mem _ member))
        (whole.imp (fun oneLevel member => oneLevel (List.mem_cons_of_mem _ member)) id) early
      exact ⟨by rw [same, later.1], later.2⟩

end WiznetEaas.MqttMessages
