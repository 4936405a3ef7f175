import TopicReplay.Proofs.Broker.Sound
import TopicReplay.Proofs.Session.Begin

/-!
# What planning asks of a broker

Planning puts questions to a broker: which partitions a topic has, and to create one that is
missing. An `Inquiry` is a computation that knows of its broker only the answers to its
questions, so that holding it with a broker gives what was asked beside the result.
`planTopics_eq` says that planning is such a computation.

Each topic is listed, or listed, created and listed again (`Consulted`), topic after topic up to
the first error (`Surveyed`). `planning_exact` says what this makes of starting a session.
-/

namespace TopicReplay.Session

open Broker (Client)

variable {α γ β σ : Type} [Client β σ]

/-- A question that was put to a broker, with its answer. -/
inductive Exchange where
  | listed (topic : String) (answer : Except Broker.Error (List Int))
  | created (topic : String) (spec : Broker.TopicSpec) (answer : Except Broker.Error Unit)

namespace Exchange

/-- The topic that a question is about. -/
def topic : Exchange → String
  | .listed topic _ | .created topic _ _ => topic

/-- The exchanges about one topic. -/
def about (topic : String) (exchanges : List Exchange) : List Exchange :=
  exchanges.filter (·.topic = topic)

end Exchange

/-- A computation that puts questions to a broker and goes on with the answers. -/
inductive Inquiry (α : Type) where
  | done (a : α)
  | list (topic : String) (next : Except Broker.Error (List Int) → Inquiry α)
  | create (topic : String) (spec : Broker.TopicSpec)
      (next : Except Broker.Error Unit → Inquiry α)

namespace Inquiry

/-- Goes on with what an inquiry results in. -/
def andThen : Inquiry α → (α → Inquiry γ) → Inquiry γ
  | .done a, later => later a
  | .list topic next, later => .list topic fun answer => (next answer).andThen later
  | .create topic spec next, later => .create topic spec fun answer => (next answer).andThen later

/-- Puts the questions of an inquiry to a broker. Gives the result, what was asked and answered,
and the broker as it is then. -/
def hold : Inquiry α → β → α × List Exchange × β
  | .done a, client => (a, [], client)
  | .list topic next, client =>
      let answer := Client.partitions client topic
      let held := (next answer).hold client
      (held.1, .listed topic answer :: held.2.1, held.2.2)
  | .create topic spec next, client =>
      match Client.create client topic spec with
      | .ok after =>
          let held := (next (.ok ())).hold after
          (held.1, .created topic spec (.ok ()) :: held.2.1, held.2.2)
      | .error e =>
          let held := (next (.error e)).hold client
          (held.1, .created topic spec (.error e) :: held.2.1, held.2.2)

theorem hold_andThen (inquiry : Inquiry α) (later : α → Inquiry γ) (client : β) :
    (inquiry.andThen later).hold client =
      ((((later (inquiry.hold client).1).hold (inquiry.hold client).2.2).1),
        (inquiry.hold client).2.1 ++
          ((later (inquiry.hold client).1).hold (inquiry.hold client).2.2).2.1,
        ((later (inquiry.hold client).1).hold (inquiry.hold client).2.2).2.2) := by
  induction inquiry generalizing client with
  | done a => rfl
  | list topic next ih => simp only [andThen, hold, ih, List.cons_append]
  | create topic spec next ih =>
      simp only [andThen, hold]
      cases Client.create client topic spec with
      | ok after => simp only [ih, List.cons_append]
      | error e => simp only [ih, List.cons_append]

/-- An inquiry does nothing to a broker but to create topics. -/
theorem hold_keeps {κ : Type} (aspect : β → κ)
    (spared : ∀ {client after : β} {topic : String} {spec : Broker.TopicSpec},
      Client.create client topic spec = .ok after → aspect after = aspect client)
    (inquiry : Inquiry α) (client : β) : aspect (inquiry.hold client).2.2 = aspect client := by
  induction inquiry generalizing client with
  | done a => rfl
  | list topic next ih => exact ih _ client
  | create topic spec next ih =>
      simp only [hold]
      cases created : Client.create client topic spec with
      | ok after => exact (ih _ after).trans (spared created)
      | error e => exact ih _ client

end Inquiry

/-! ## Planning as an inquiry -/

/-- Lists the partitions of a topic, which is created if it is missing. -/
def inquirePartitions (settings : Settings) (topic : String) :
    Inquiry (Except Broker.Error (List Int)) :=
  .list topic fun listed =>
    match listed, settings.autoCreate with
    | .error (.topicNotFound _), some spec =>
        .create topic spec fun created =>
          match created with
          | .ok () => .list topic .done
          | .error e => .done (.error e)
    | listed, _ => .done listed

/-- Plans topic after topic, up to the first error. -/
def inquire (settings : Settings) :
    List (String × Selection) → Inquiry (Except Broker.Error (List Planned))
  | [] => .done (.ok [])
  | (topic, selection) :: rest =>
      (inquirePartitions settings topic).andThen fun listed =>
        match listed with
        | .error e => .done (.error e)
        | .ok partitions =>
            (inquire settings rest).andThen fun planned =>
              .done (planned.map (planTopic topic selection partitions ++ ·))

variable {settings : Settings}

/-- What is asked about a topic and answered, and the answer that counts: the topic is listed once,
or it is missing, is created and listed again, where the second answer counts, whatever it is. -/
inductive Consulted (settings : Settings) (topic : String) :
    List Exchange → Except Broker.Error (List Int) → Prop where
  | listed {answer : Except Broker.Error (List Int)}
      (final : ∀ name, answer = .error (.topicNotFound name) → settings.autoCreate = none) :
      Consulted settings topic [.listed topic answer] answer
  | refused {name : String} {spec : Broker.TopicSpec} {e : Broker.Error}
      (creates : settings.autoCreate = some spec) :
      Consulted settings topic
        [.listed topic (.error (.topicNotFound name)), .created topic spec (.error e)] (.error e)
  | created {name : String} {spec : Broker.TopicSpec} {answer : Except Broker.Error (List Int)}
      (creates : settings.autoCreate = some spec) :
      Consulted settings topic
        [.listed topic (.error (.topicNotFound name)), .created topic spec (.ok ()),
          .listed topic answer]
        answer

/-- Listing the partitions of a topic is an inquiry, which consults the broker so. -/
theorem hold_inquirePartitions (settings : Settings) (topic : String) (client : β) :
    ∃ answer exchanges after,
      (inquirePartitions settings topic).hold client = (answer, exchanges, after) ∧
        fetchPartitions settings client topic = (answer, after) ∧
        Consulted settings topic exchanges answer := by
  unfold fetchPartitions inquirePartitions
  simp only [Inquiry.hold]
  cases Client.partitions client topic with
  | ok partitions => exact ⟨_, _, _, rfl, rfl, .listed fun _ same => by cases same⟩
  | error e =>
      cases e with
      | topicNotFound name =>
          cases creates : settings.autoCreate with
          | none => exact ⟨_, _, _, rfl, rfl, .listed fun _ _ => creates⟩
          | some spec =>
              simp only [Inquiry.hold]
              cases Client.create client topic spec with
              | ok after => exact ⟨_, _, _, rfl, rfl, .created creates⟩
              | error e => exact ⟨_, _, _, rfl, rfl, .refused creates⟩
      | _ => exact ⟨_, _, _, rfl, rfl, .listed fun _ same => by cases same⟩

/-- Planning is an inquiry. -/
theorem planTopics_eq (settings : Settings) (topics : List (String × Selection)) (client : β) :
    planTopics settings topics client =
      (((inquire settings topics).hold client).1, ((inquire settings topics).hold client).2.2) := by
  induction topics generalizing client with
  | nil => rfl
  | cons first rest ih =>
      rcases first with ⟨topic, selection⟩
      obtain ⟨answer, exchanges, after, held, fetched, -⟩ :=
        hold_inquirePartitions settings topic client
      rw [planTopics, fetched, inquire, Inquiry.hold_andThen, held]
      cases answer with
      | error e => rfl
      | ok partitions =>
          simp only [Inquiry.hold_andThen, Inquiry.hold]
          rw [ih]

/-- What is asked about topics and answered, one after the other up to the first error. -/
inductive Surveyed (settings : Settings) :
    List (String × Selection) → List Exchange → Except Broker.Error (List Planned) → Prop where
  | done : Surveyed settings [] [] (.ok [])
  | failed {topic : String} {selection : Selection} {rest : List (String × Selection)}
      {exchanges : List Exchange} {e : Broker.Error}
      (consulted : Consulted settings topic exchanges (.error e)) :
      Surveyed settings ((topic, selection) :: rest) exchanges (.error e)
  | listed {topic : String} {selection : Selection} {rest : List (String × Selection)}
      {exchanges more : List Exchange} {partitions : List Int}
      {planned : Except Broker.Error (List Planned)}
      (consulted : Consulted settings topic exchanges (.ok partitions))
      (later : Surveyed settings rest more planned) :
      Surveyed settings ((topic, selection) :: rest) (exchanges ++ more)
        (planned.map (planTopic topic selection partitions ++ ·))

/-- Planning consults the broker about each topic in turn. -/
theorem surveyed_hold (settings : Settings) (topics : List (String × Selection)) (client : β) :
    Surveyed settings topics ((inquire settings topics).hold client).2.1
      ((inquire settings topics).hold client).1 := by
  induction topics generalizing client with
  | nil => exact .done
  | cons first rest ih =>
      rcases first with ⟨topic, selection⟩
      obtain ⟨answer, exchanges, after, held, -, consulted⟩ :=
        hold_inquirePartitions settings topic client
      rw [inquire, Inquiry.hold_andThen, held]
      cases answer with
      | error e =>
          rw [Inquiry.hold, List.append_nil]
          exact .failed consulted
      | ok partitions =>
          simp only [Inquiry.hold_andThen, Inquiry.hold, List.append_nil]
          exact .listed consulted (ih after)

/-! ## What was asked about one topic -/

namespace Exchange

theorem about_append (topic : String) (exchanges more : List Exchange) :
    about topic (exchanges ++ more) = about topic exchanges ++ about topic more :=
  List.filter_append _ _

theorem about_eq_nil {topic : String} {exchanges : List Exchange}
    (others : ∀ exchange ∈ exchanges, exchange.topic ≠ topic) : about topic exchanges = [] :=
  List.filter_eq_nil_iff.mpr fun exchange member => by simpa using others exchange member

end Exchange

open Exchange (about about_append about_eq_nil)

variable {topic : String} {topics : List (String × Selection)} {exchanges : List Exchange}

theorem Consulted.topic_eq {answer : Except Broker.Error (List Int)}
    (consulted : Consulted settings topic exchanges answer) :
    ∀ exchange ∈ exchanges, exchange.topic = topic := by
  cases consulted <;> simp [Exchange.topic]

theorem Consulted.about_self {answer : Except Broker.Error (List Int)}
    (consulted : Consulted settings topic exchanges answer) : about topic exchanges = exchanges :=
  List.filter_eq_self.mpr fun exchange member => by simpa using consulted.topic_eq exchange member

theorem Consulted.about_of_ne {answer : Except Broker.Error (List Int)} {other : String}
    (consulted : Consulted settings topic exchanges answer) (apart : other ≠ topic) :
    about other exchanges = [] :=
  about_eq_nil fun exchange member same =>
    apart (same.symm.trans (consulted.topic_eq exchange member))

/-- One answer counts. -/
theorem Consulted.unique {answer other : Except Broker.Error (List Int)}
    (consulted : Consulted settings topic exchanges answer)
    (again : Consulted settings topic exchanges other) : answer = other := by
  cases consulted <;> cases again <;> rfl

/-- Nothing is asked about any other topic. -/
theorem Surveyed.topic_mem {planned : Except Broker.Error (List Planned)}
    (surveyed : Surveyed settings topics exchanges planned) :
    ∀ exchange ∈ exchanges, exchange.topic ∈ topics.map (·.1) := by
  induction surveyed with
  | done => exact fun _ member => absurd member List.not_mem_nil
  | failed consulted =>
      intro exchange member
      rw [consulted.topic_eq exchange member]
      exact List.mem_cons_self
  | listed consulted later ih =>
      intro exchange member
      rcases List.mem_append.mp member with here | there
      · rw [consulted.topic_eq exchange here]
        exact List.mem_cons_self
      · exact List.mem_cons_of_mem _ (ih exchange there)

/-- What is asked about a topic is asked while it is its turn. -/
theorem Surveyed.about_listed {more : List Exchange} {rest : List (String × Selection)}
    {answer : Except Broker.Error (List Int)} {planned : Except Broker.Error (List Planned)}
    (consulted : Consulted settings topic exchanges answer)
    (later : Surveyed settings rest more planned) (fresh : topic ∉ rest.map (·.1)) :
    about topic (exchanges ++ more) = exchanges ∧
      ∀ other ≠ topic, about other (exchanges ++ more) = about other more := by
  constructor
  · rw [about_append, consulted.about_self, about_eq_nil, List.append_nil]
    rintro exchange member rfl
    exact fresh (later.topic_mem exchange member)
  · intro other apart
    rw [about_append, consulted.about_of_ne apart, List.nil_append]

omit [Client β σ] in
theorem ne_of_fresh {rest : List (String × Selection)} (fresh : topic ∉ rest.map (·.1))
    {entry : String × Selection} (member : entry ∈ rest) : entry.1 ≠ topic :=
  fun same => fresh (List.mem_map.mpr ⟨entry, member, same⟩)

/-- The broker is consulted about a topic once, if at all. -/
theorem Surveyed.consulted_or_silent {planned : Except Broker.Error (List Planned)}
    (surveyed : Surveyed settings topics exchanges planned) (nodup : (topics.map (·.1)).Nodup)
    (topic : String) :
    about topic exchanges = [] ∨
      ∃ answer, Consulted settings topic (about topic exchanges) answer := by
  induction surveyed with
  | done => exact .inl rfl
  | @failed first selection rest exchanges e consulted =>
      by_cases here : topic = first
      · subst here
        rw [consulted.about_self]
        exact .inr ⟨_, consulted⟩
      · exact .inl (consulted.about_of_ne here)
  | @listed first selection rest exchanges more partitions planned consulted later ih =>
      obtain ⟨fresh, restNodup⟩ := List.nodup_cons.mp nodup
      obtain ⟨about_first, about_other⟩ := later.about_listed consulted fresh
      by_cases here : topic = first
      · subst here
        rw [about_first]
        exact .inr ⟨_, consulted⟩
      · rw [about_other topic here]
        exact ih restNodup

/-- Whether planning ends with the error of the first topic whose answer is one. -/
def FailsWith (settings : Settings) (topics : List (String × Selection))
    (exchanges : List Exchange) (e : Broker.Error) : Prop :=
  ∃ earlier topic selection later, topics = earlier ++ (topic, selection) :: later ∧
    (∀ other ∈ earlier, ∃ partitions,
      Consulted settings other.1 (about other.1 exchanges) (.ok partitions)) ∧
    Consulted settings topic (about topic exchanges) (.error e) ∧
    ∀ other ∈ later, about other.1 exchanges = []

theorem Surveyed.failsWith {e : Broker.Error}
    (surveyed : Surveyed settings topics exchanges (.error e))
    (nodup : (topics.map (·.1)).Nodup) : FailsWith settings topics exchanges e := by
  -- the induction needs the outcome as a variable: that of the topics behind the first differs
  generalize planned_eq :
    (Except.error e : Except Broker.Error (List Planned)) = planned at surveyed
  induction surveyed with
  | done => cases planned_eq
  | @failed first selection rest exchanges e consulted =>
      cases planned_eq
      have fresh := (List.nodup_cons.mp nodup).1
      refine ⟨[], first, selection, rest, rfl, ?_, ?_, fun other member => ?_⟩
      · exact fun _ member => absurd member List.not_mem_nil
      · rw [consulted.about_self]
        exact consulted
      · exact consulted.about_of_ne (ne_of_fresh fresh member)
  | @listed first selection rest exchanges more partitions planned consulted later ih =>
      obtain ⟨fresh, restNodup⟩ := List.nodup_cons.mp nodup
      obtain ⟨about_first, about_other⟩ := later.about_listed consulted fresh
      have others {other : String × Selection} (member : other ∈ rest) :
          about other.1 (exchanges ++ more) = about other.1 more :=
        about_other other.1 (ne_of_fresh fresh member)
      cases planned with
      | ok plans => cases planned_eq
      | error fault =>
          cases planned_eq
          obtain ⟨earlier, topic, found, latest, rfl, before, failed, silent⟩ := ih restNodup rfl
          refine ⟨(first, selection) :: earlier, topic, found, latest, rfl, ?_, ?_, ?_⟩
          · intro other member
            rcases List.mem_cons.mp member with rfl | member
            · rw [about_first]
              exact ⟨partitions, consulted⟩
            · rw [others (List.mem_append_left _ member)]
              exact before other member
          · rw [others (List.mem_append_right _ List.mem_cons_self)]
            exact failed
          · intro other member
            rw [others (List.mem_append_right _ (List.mem_cons_of_mem _ member))]
            exact silent other member

/-- The plans that are made for one topic are all of that topic. -/
theorem filter_planTopic (name topic : String) (selection : Selection) (partitions : List Int) :
    ((planTopic topic selection partitions).filter fun plan => plan.place.topic = name) =
      if name = topic then planTopic topic selection partitions else [] := by
  split
  · rename_i same
    rw [List.filter_eq_self]
    intro plan member
    rw [decide_eq_true_eq, topic_eq_of_mem_planTopic member, same]
  · rename_i apart
    rw [List.filter_eq_nil_iff]
    intro plan member same
    rw [decide_eq_true_eq, topic_eq_of_mem_planTopic member] at same
    exact apart same.symm

/-- The plans of a topic are those that its listing makes, and there are no others. -/
theorem Surveyed.plans {plans : List Planned}
    (surveyed : Surveyed settings topics exchanges (.ok plans))
    (nodup : (topics.map (·.1)).Nodup) :
    (∀ plan ∈ plans, plan.place.topic ∈ topics.map (·.1)) ∧
      ∀ entry ∈ topics, ∃ partitions,
        Consulted settings entry.1 (about entry.1 exchanges) (.ok partitions) ∧
        (plans.filter fun plan => plan.place.topic = entry.1) =
          planTopic entry.1 entry.2 partitions := by
  generalize planned_eq :
    (Except.ok plans : Except Broker.Error (List Planned)) = planned at surveyed
  induction surveyed generalizing plans with
  | done =>
      cases planned_eq
      exact ⟨fun _ member => absurd member List.not_mem_nil,
        fun _ member => absurd member List.not_mem_nil⟩
  | failed consulted => cases planned_eq
  | @listed first selection rest exchanges more partitions planned consulted later ih =>
      obtain ⟨fresh, restNodup⟩ := List.nodup_cons.mp nodup
      obtain ⟨about_first, about_other⟩ := later.about_listed consulted fresh
      cases planned with
      | error fault => cases planned_eq
      | ok others =>
          cases planned_eq
          obtain ⟨known, planned⟩ := ih restNodup rfl
          constructor
          · intro plan member
            rcases List.mem_append.mp member with here | there
            · rw [topic_eq_of_mem_planTopic here]
              exact List.mem_cons_self
            · exact List.mem_cons_of_mem _ (known plan there)
          · intro entry member
            rw [List.filter_append, filter_planTopic]
            rcases List.mem_cons.mp member with rfl | member
            · have theirs : others.filter (fun plan => plan.place.topic = first) = [] := by
                rw [List.filter_eq_nil_iff]
                intro plan member same
                rw [decide_eq_true_eq] at same
                exact fresh (same ▸ known plan member)
              refine ⟨partitions, by rwa [about_first], ?_⟩
              rw [if_pos rfl, theirs, List.append_nil]
            · obtain ⟨listed, answered, plans_eq⟩ := planned entry member
              have apart := ne_of_fresh fresh member
              refine ⟨listed, by rwa [about_other _ apart], ?_⟩
              rw [if_neg apart, List.nil_append, plans_eq]

/-- A partition is planned as often as it is listed, unless it is excluded. -/
theorem count_planTopic {selection : Selection} {partition : Int} {span : Span}
    (chosen : (selection.choose partition).span? = some span) (partitions : List Int) :
    ((planTopic topic selection partitions).map (·.place)).count ⟨topic, partition⟩ =
      partitions.count partition := by
  rw [planTopic, List.map_filterMap, List.count_filterMap, List.count]
  apply List.countP_congr
  intro other _
  simp only [beq_iff_eq, Option.map_map, Option.map_eq_some_iff, Function.comp]
  constructor
  · rintro ⟨_, -, same⟩
    exact (TopicPartition.mk.inj same).2
  · rintro rfl
    exact ⟨span, chosen, rfl⟩

/-- Whether a partition is to be read over a span: its topic was asked for and lists it, and it
is not excluded. -/
def Requested (settings : Settings) (topics : Topics) (exchanges : List Exchange)
    (place : TopicPartition) (span : Span) : Prop :=
  ∃ selection partitions, topics.get? place.topic = some selection ∧
    Consulted settings place.topic (about place.topic exchanges) (.ok partitions) ∧
    place.partition ∈ partitions ∧ (selection.choose place.partition).span? = some span

/-- Exactly the partitions that are requested are planned. -/
theorem Surveyed.mem_plans_iff {topics : Topics} {plans : List Planned}
    (surveyed : Surveyed settings topics.toList exchanges (.ok plans)) {plan : Planned} :
    plan ∈ plans ↔ Requested settings topics exchanges plan.place plan.span := by
  obtain ⟨known, planned⟩ := surveyed.plans topics.nodup_keys
  rcases plan with ⟨⟨topic, partition⟩, span⟩
  constructor
  · intro member
    obtain ⟨⟨name, selection⟩, asked, same⟩ := List.mem_map.mp (known _ member)
    cases same
    obtain ⟨partitions, consulted, plans_eq⟩ := planned _ asked
    have mine : (⟨⟨topic, partition⟩, span⟩ : Planned) ∈
        plans.filter fun plan => plan.place.topic = topic :=
      List.mem_filter.mpr ⟨member, decide_eq_true rfl⟩
    rw [plans_eq] at mine
    obtain ⟨listed, inside, made⟩ := List.mem_filterMap.mp mine
    obtain ⟨other, chosen, same⟩ := Option.map_eq_some_iff.mp made
    cases same
    exact ⟨selection, partitions, OrderedMap.mem_toList_iff.mp asked, consulted, inside, chosen⟩
  · rintro ⟨selection, partitions, asked, consulted, inside, chosen⟩
    obtain ⟨listed, again, plans_eq⟩ := planned _ (OrderedMap.mem_toList_iff.mpr asked)
    cases consulted.unique again
    have mine : (⟨⟨topic, partition⟩, span⟩ : Planned) ∈ planTopic topic selection partitions :=
      List.mem_filterMap.mpr ⟨partition, inside, by rw [chosen]; rfl⟩
    rw [← plans_eq] at mine
    exact (List.mem_filter.mp mine).1

/-- A partition is planned as often as its topic lists it, unless it is excluded. -/
theorem Surveyed.count_plans {topics : Topics} {plans : List Planned}
    (surveyed : Surveyed settings topics.toList exchanges (.ok plans)) {selection : Selection}
    {partitions : List Int} {partition : Int} {span : Span}
    (asked : topics.get? topic = some selection)
    (consulted : Consulted settings topic (about topic exchanges) (.ok partitions))
    (chosen : (selection.choose partition).span? = some span) :
    (plans.map (·.place)).count ⟨topic, partition⟩ = partitions.count partition := by
  obtain ⟨-, planned⟩ := surveyed.plans topics.nodup_keys
  obtain ⟨listed, again, plans_eq⟩ := planned _ (OrderedMap.mem_toList_iff.mpr asked)
  cases consulted.unique again
  calc
    (plans.map (·.place)).count ⟨topic, partition⟩
        = ((plans.map (·.place)).filter (·.topic = topic)).count ⟨topic, partition⟩ :=
      (List.count_filter (by simp)).symm
    _ = ((planTopic topic selection partitions).map (·.place)).count ⟨topic, partition⟩ := by
      rw [List.filter_map, ← plans_eq]
      rfl
    _ = partitions.count partition := count_planTopic chosen partitions

end TopicReplay.Session

namespace TopicReplay.Scene

open Broker (Client)
open Session (Exchange Consulted FailsWith Requested inquire)
open Session.Exchange (about)

variable {β σ ρ : Type} [Client β σ]

variable {settings : Settings} {born now : Nat} {topics : Session.Topics} {client : β} {store : ρ}
  {result : Except RunError Unit} {scene : Scene β σ ρ} {exchanges : List Exchange}

/-- Starting a session does what the inquiry results in, if there are topics at all. -/
theorem of_start {planned : Except Broker.Error (List Session.Planned)} {after : β}
    (held : (inquire settings topics.toList).hold client = (planned, exchanges, after))
    (started : start settings born false topics now client store = (result, scene)) :
    after = scene.client ∧
      (topics.isEmpty = true ∧ result = .error .noTopics ∧ scene.session.crew.consumers = [] ∨
        topics.isEmpty = false ∧ result = (planned.mapError .broker).map (fun _ => ()) ∧
          scene.session.crew.consumers = (planned.toOption.getD []).map fun plan =>
            { environment := settings.environment, place := plan.place, span := plan.span }) := by
  have planned_eq := Session.planTopics_eq settings topics.toList client
  rw [held] at planned_eq
  obtain ⟨session, last, rfl, starts⟩ := exists_starts started
  cases starts with
  | @refused e refuses =>
      unfold Session.claim at refuses
      cases empty : topics.isEmpty with
      | true =>
          rw [empty] at refuses
          cases refuses
          have none_asked : topics.toList = [] := List.isEmpty_iff.mp empty
          rw [none_asked] at held
          cases held
          exact ⟨rfl, .inl ⟨rfl, rfl, rfl⟩⟩
      | false =>
          rw [empty] at refuses
          cases refuses
  | cancelled claims told =>
      rcases Session.claim_eq_ok_iff.mp claims with ⟨-, -, rfl⟩
      cases told
  | unplanned claims plans =>
      rcases Session.claim_eq_ok_iff.mp claims with ⟨nonempty, -, rfl⟩
      rcases Prod.mk.inj (planned_eq.symm.trans plans) with ⟨rfl, rfl⟩
      exact ⟨rfl, .inr ⟨nonempty, rfl, rfl⟩⟩
  | launched claims untold plans =>
      rcases Session.claim_eq_ok_iff.mp claims with ⟨nonempty, -, rfl⟩
      rcases Prod.mk.inj (planned_eq.symm.trans plans) with ⟨rfl, rfl⟩
      exact ⟨rfl, .inr ⟨nonempty, rfl, rfl⟩⟩

/-- What a session has that was launched: for every partition that is requested a consumer that
has not done anything, and no other. -/
structure Launched (settings : Settings) (topics : Session.Topics) (exchanges : List Exchange)
    (scene : Scene β σ ρ) : Prop where
  listed : ∀ topic ∈ topics.keys, ∃ partitions,
    Consulted settings topic (about topic exchanges) (.ok partitions)
  mem_iff : ∀ consumer, consumer ∈ scene.session.crew.consumers ↔
    ∃ place span, consumer = { environment := settings.environment, place, span } ∧
      Requested settings topics exchanges place span
  /-- There are as many as the topic lists the partition: one, unless it lists it twice. -/
  count_eq : ∀ (place : TopicPartition) (selection : Selection) (partitions : List Int)
    (span : Span),
    topics.get? place.topic = some selection →
    Consulted settings place.topic (about place.topic exchanges) (.ok partitions) →
    (selection.choose place.partition).span? = some span →
    scene.places.count place = partitions.count place.partition

omit [Client β σ] in
theorem launched_of_surveyed {plans : List Session.Planned}
    (surveyed : Session.Surveyed settings topics.toList exchanges (.ok plans))
    (consumers_eq : scene.session.crew.consumers = plans.map fun plan =>
      { environment := settings.environment, place := plan.place, span := plan.span }) :
    scene.Launched settings topics exchanges where
  listed topic asked := by
    obtain ⟨entry, member, rfl⟩ := List.mem_map.mp asked
    obtain ⟨partitions, consulted, -⟩ := (surveyed.plans topics.nodup_keys).2 entry member
    exact ⟨partitions, consulted⟩
  mem_iff consumer := by
    rw [consumers_eq, List.mem_map]
    constructor
    · rintro ⟨plan, member, rfl⟩
      exact ⟨plan.place, plan.span, rfl, surveyed.mem_plans_iff.mp member⟩
    · rintro ⟨place, span, rfl, requested⟩
      exact ⟨⟨place, span⟩, surveyed.mem_plans_iff.mpr requested, rfl⟩
  count_eq place selection partitions span asked consulted chosen := by
    have places_eq : scene.places = plans.map (·.place) := by
      rw [places, consumers_eq, List.map_map]
      rfl
    rw [places_eq]
    exact surveyed.count_plans asked consulted chosen

/-- Starting a session that nobody has asked to stop consults the broker about each topic at most
once, and does nothing else to it but to create topics, nor anything to the store. Where the
answer about a topic is an error, the first one is returned and there is no consumer. Else there
is a consumer for every partition that is requested, and no other; it is the only one of that
partition where the broker lists none twice. -/
theorem planning_exact
    (started : start settings born false topics now client store = (result, scene)) :
    ∃ planned exchanges,
      (inquire settings topics.toList).hold client = (planned, exchanges, scene.client) ∧
      Session.planTopics settings topics.toList client = (planned, scene.client) ∧
      (∀ exchange ∈ exchanges, exchange.topic ∈ topics.keys) ∧
      (∀ topic, about topic exchanges = [] ∨
        ∃ answer, Consulted settings topic (about topic exchanges) answer) ∧
      (∀ {κ : Type} (aspect : β → κ),
        (∀ {before after : β} {topic : String} {spec : Broker.TopicSpec},
          Client.create before topic spec = .ok after → aspect after = aspect before) →
        aspect scene.client = aspect client) ∧
      scene.store = store ∧
      (∀ kept : β → Prop, Session.Lists kept → kept client → scene.places.Nodup) ∧
      (∀ e, result = .error e → scene.session.crew.consumers = [] ∧
        (e = .noTopics ∧ topics.isEmpty = true ∨
          ∃ fault, e = .broker fault ∧ FailsWith settings topics.toList exchanges fault)) ∧
      (result = .ok () → topics.isEmpty = false ∧ scene.Launched settings topics exchanges) := by
  rcases held : (inquire settings topics.toList).hold client with ⟨planned, exchanges, after⟩
  have surveyed := Session.surveyed_hold settings topics.toList client
  obtain ⟨rfl, outcome⟩ := of_start held started
  rw [held] at surveyed
  refine ⟨planned, exchanges, rfl, ?_, surveyed.topic_mem,
    surveyed.consulted_or_silent topics.nodup_keys, ?_, store_start started,
    fun kept lists holds => (fresh_of_lists lists holds started).1.nodup, ?_, ?_⟩
  · rw [Session.planTopics_eq, held]
  · intro κ aspect spared
    have kept := Session.Inquiry.hold_keeps aspect spared (inquire settings topics.toList) client
    rwa [held] at kept
  · rintro e rfl
    rcases outcome with ⟨empty, refused, idle⟩ | ⟨-, failed, consumers_eq⟩
    · cases refused
      exact ⟨idle, .inl ⟨rfl, empty⟩⟩
    · cases planned with
      | error fault =>
          cases failed
          exact ⟨consumers_eq, .inr ⟨fault, rfl, surveyed.failsWith topics.nodup_keys⟩⟩
      | ok plans => cases failed
  · rintro rfl
    rcases outcome with ⟨-, refused, -⟩ | ⟨nonempty, succeeded, consumers_eq⟩
    · cases refused
    · cases planned with
      | error fault => cases succeeded
      | ok plans => exact ⟨nonempty, launched_of_surveyed surveyed consumers_eq⟩

section Created

open Broker (LogBroker)

/-- A broker that has one topic, of three partitions. -/
def board : LogBroker := LogBroker.addTopic {} "orders" 3

/-- Missing topics are to be created with two partitions. -/
def creating : Settings where
  autoCreate := some { partitions := 2 }

/-- Asks for all of a missing topic, and for two partitions of the other one, of which only one is
there. -/
def wishes : Session.Topics :=
  (OrderedMap.empty.insert "audit" {}).insert "orders"
    { own := (OrderedMap.empty.insert 0 { start := .offset 5 }).insert 7 {}, exclusive := true }

/-- The missing topic is created and listed again. -/
theorem planning_exact_created :
    ∃ scene exchanges, start creating 0 false wishes 0 board () = (.ok (), scene) ∧
      about "audit" exchanges =
        [.listed "audit" (.error (.topicNotFound "audit")),
          .created "audit" { partitions := 2 } (.ok ()), .listed "audit" (.ok [0, 1])] ∧
      about "orders" exchanges = [.listed "orders" (.ok [0, 1, 2])] ∧
      scene.Launched creating wishes exchanges ∧
      scene.places = [⟨"audit", 0⟩, ⟨"audit", 1⟩, ⟨"orders", 0⟩] ∧ scene.places.Nodup := by
  obtain ⟨scene, started⟩ : ∃ scene, start creating 0 false wishes 0 board () = (.ok (), scene) :=
    ⟨_, rfl⟩
  have lists : Session.Lists fun _ : LogBroker => True :=
    ⟨fun _ listed => LogBroker.nodup_partitions listed, fun _ _ => trivial⟩
  obtain ⟨planned, exchanges, held, -, -, -, -, -, alone, -, launched⟩ := planning_exact started
  have nodup := alone _ lists trivial
  cases started
  cases held
  exact ⟨_, _, rfl, rfl, rfl, (launched rfl).2, rfl, nodup⟩

end Created

end TopicReplay.Scene
