import Rendezvous.Proofs.Rounds

/-!
# Who is written to about a date

Mail about a date goes to the owner, where the owner is to be told, and to everybody who
contributes to the date and has confirmed an address, where the participants are to be told.  Of
several who share an address the owner is the one who is written to, or else the first.
-/

namespace Rendezvous

/-! ## The first of each address -/

namespace Recipient

variable {recipients : List Recipient} {recipient : Recipient}

/-- Whoever is kept is the first with the address. -/
theorem mem_distinct_iff :
    recipient ∈ distinct recipients
      ↔ recipients.find? (fun other => other.email = recipient.email) = some recipient := by
  induction recipients with
  | nil => simp [distinct]
  | cons first rest ih =>
    rw [distinct, List.mem_cons, List.mem_filter, ih, List.find?_cons]
    by_cases same : first.email = recipient.email
    · simp [same, eq_comm]
    · have other : recipient ≠ first := fun equal => same (congrArg email equal.symm)
      simp [same, other, Ne.symm same]

end Recipient

namespace Records

/-- Whether somebody is a participant of a calendar, contributes to a date, and has confirmed
an address. -/
structure Reaches (records : Records) (calendarId : String) (day : Date) (address : String)
    (participant : Participant) : Prop where
  belongs : participant.calendarId = calendarId
  contributes : ∃ contribution ∈ records.merged calendarId day,
    contribution.participantId = some participant.id
  confirmed : participant.email = some address
  given : address ≠ ""
  verified : participant.emailVerified = true

/-- The owner of a calendar, where the owner is to be told and is known. -/
def informedOwner? (records : Records) (calendar : Calendar) (config : NotifyConfig) :
    Option User :=
  if config.notifyOwner then records.users.get? calendar.ownerId else none

variable {records : Records} {calendar : Calendar} {config : NotifyConfig} {day : Date}
  {calendarId address : String} {participant : Participant} {recipient : Recipient}

theorem reaches_iff :
    records.Reaches calendarId day address participant
      ↔ participant.calendarId = calendarId ∧ records.isAvailable calendarId day participant.id
        ∧ ∃ recipient, Recipient.ofParticipant? participant = some recipient
          ∧ recipient.email = address := by
  unfold isAvailable
  rw [contributionsOn_eq_merged, List.any_eq_true]
  simp only [decide_eq_true_eq]
  constructor
  · rintro ⟨belongs, contributes, confirmed, given, verified⟩
    refine ⟨belongs, contributes,
      ⟨address, participant.name, participant.locale, participant.id, some participant.id, false⟩,
      ?_, rfl⟩
    simp [Recipient.ofParticipant?, verified, confirmed, given]
  · rintro ⟨belongs, contributes, recipient, told, rfl⟩
    unfold Recipient.ofParticipant? at told
    split at told
    next verified =>
      obtain ⟨address, confirmed, rfl⟩ := Option.map_eq_some_iff.mp told
      obtain ⟨confirmed, given⟩ := Option.filter_eq_some_iff.mp confirmed
      exact ⟨belongs, contributes, confirmed, by simpa using given, verified⟩
    next => cases told

instance : Decidable (records.Reaches calendarId day address participant) :=
  decidable_of_iff
    (participant.calendarId = calendarId
      ∧ (∃ contribution ∈ records.merged calendarId day,
        contribution.participantId = some participant.id)
      ∧ participant.email = some address ∧ address ≠ "" ∧ participant.emailVerified = true)
    ⟨fun ⟨belongs, contributes, confirmed, given, verified⟩ =>
      ⟨belongs, contributes, confirmed, given, verified⟩,
    fun ⟨belongs, contributes, confirmed, given, verified⟩ =>
      ⟨belongs, contributes, confirmed, given, verified⟩⟩

theorem Reaches.ofParticipant? (reaches : records.Reaches calendarId day address participant) :
    Recipient.ofParticipant? participant
      = some ⟨address, participant.name, participant.locale, participant.id,
        some participant.id, false⟩ := by
  simp [Recipient.ofParticipant?, reaches.verified, reaches.confirmed, reaches.given]

theorem reaches_of_find?
    (found : records.participants.rows.find?
      (fun other => records.Reaches calendarId day address other) = some participant) :
    records.Reaches calendarId day address participant := by
  have passes := List.find?_some found
  exact of_decide_eq_true passes

theorem exists_find?_of_reaches (inside : participant ∈ records.participants.rows)
    (reaches : records.Reaches calendarId day address participant) :
    ∃ first, records.participants.rows.find?
      (fun other => records.Reaches calendarId day address other) = some first := by
  apply Option.isSome_iff_exists.mp
  rw [List.find?_isSome]
  exact ⟨participant, inside, decide_eq_true reaches⟩

/-- The participants who are to be told, before those who share an address are left out. -/
def informed (records : Records) (calendar : Calendar) (config : NotifyConfig) (day : Date) :
    List Recipient :=
  if config.notifyParticipants then
    (records.availableOn calendar.id day).filterMap Recipient.ofParticipant?
  else
    []

theorem recipients_eq :
    records.recipients calendar config day
      = Recipient.distinct
        ((records.informedOwner? calendar config).toList.map
            (Recipient.ofOwner (records.participantsOf calendar.id))
          ++ records.informed calendar config day) := by
  unfold recipients informedOwner? informed
  cases config.notifyOwner <;> rfl

/-- The first participant that is told at an address is the first whom it reaches. -/
theorem find?_informed :
    (records.informed calendar config day).find? (fun other => other.email = address)
        = some recipient
      ↔ config.notifyParticipants ∧ ∃ participant,
        records.participants.rows.find? (fun other => records.Reaches calendar.id day address other)
            = some participant
          ∧ recipient = ⟨address, participant.name, participant.locale, participant.id,
            some participant.id, false⟩ := by
  unfold informed
  cases config.notifyParticipants with
  | false => simp
  | true =>
    have chosen : (fun participant : Participant =>
        records.isAvailable calendar.id day participant.id
          && decide (participant.calendarId = calendar.id)
          && (Recipient.ofParticipant? participant).any fun other => other.email = address)
        = fun participant => decide (records.Reaches calendar.id day address participant) := by
      funext participant
      rw [Bool.eq_iff_iff]
      simp [reaches_iff, Option.any_eq_true, and_left_comm, and_assoc]
    simp only [if_true, availableOn, participantsOf, List.find?_filterMap, List.filter_filter,
      List.find?_filter, Bool.decide_and, Bool.decide_eq_true, chosen]
    rw [Option.bind_eq_some_iff]
    constructor
    · rintro ⟨participant, found, told⟩
      have reaches := reaches_of_find? found
      exact ⟨trivial, participant, found, Option.some.inj (told.symm.trans reaches.ofParticipant?)⟩
    · rintro ⟨-, participant, found, rfl⟩
      exact ⟨participant, found, (reaches_of_find? found).ofParticipant?⟩

theorem mem_distinct_informed_iff :
    recipient ∈ Recipient.distinct (records.informed calendar config day)
      ↔ config.notifyParticipants ∧ ∃ participant,
        records.participants.rows.find?
            (fun other => records.Reaches calendar.id day recipient.email other) = some participant
          ∧ recipient = ⟨recipient.email, participant.name, participant.locale, participant.id,
            some participant.id, false⟩ := by
  rw [Recipient.mem_distinct_iff, find?_informed]

theorem isOwner_of_mem_informed
    (inside : recipient ∈ Recipient.distinct (records.informed calendar config day)) :
    recipient.isOwner = false := by
  obtain ⟨-, participant, -, same⟩ := mem_distinct_informed_iff.mp inside
  rw [same]

/-! ## The list -/

theorem recipients_of_ownerless (unknown : records.informedOwner? calendar config = none) :
    records.recipients calendar config day
      = Recipient.distinct (records.informed calendar config day) := by
  rw [recipients_eq, unknown]
  rfl

theorem recipients_of_owner {owner : User}
    (known : records.informedOwner? calendar config = some owner) :
    records.recipients calendar config day
      = Recipient.ofOwner (records.participantsOf calendar.id) owner
        :: (Recipient.distinct (records.informed calendar config day)).filter
          fun other => other.email ≠ owner.email := by
  rw [recipients_eq, known]
  rfl

/-- Whoever is written to is the owner, or a participant at another address. -/
theorem mem_recipients_iff :
    recipient ∈ records.recipients calendar config day
      ↔ (∃ owner, records.informedOwner? calendar config = some owner
          ∧ recipient = Recipient.ofOwner (records.participantsOf calendar.id) owner)
        ∨ recipient ∈ Recipient.distinct (records.informed calendar config day)
          ∧ ∀ owner, records.informedOwner? calendar config = some owner →
            recipient.email ≠ owner.email := by
  cases known : records.informedOwner? calendar config with
  | none => simp [recipients_of_ownerless known]
  | some owner => simp [recipients_of_owner known]

/-- What the recipients of mail about a date are to be. -/
structure Collected (records : Records) (calendar : Calendar) (config : NotifyConfig)
    (day : Date) (recipients : List Recipient) : Prop where
  distinct : (recipients.map Recipient.email).Nodup
  owner : ∀ owner, records.informedOwner? calendar config = some owner →
    ∃ guests, recipients
        = ⟨owner.email, owner.displayName, owner.locale, owner.id,
            (records.participants.rows.find? fun participant =>
              participant.calendarId = calendar.id
                ∧ participant.name = owner.displayName).map Participant.id,
            true⟩ :: guests
      ∧ ∀ guest ∈ guests, guest.isOwner = false
  ownerless : records.informedOwner? calendar config = none →
    ∀ recipient ∈ recipients, recipient.isOwner = false
  reached : ∀ address,
    (∀ owner, records.informedOwner? calendar config = some owner → address ≠ owner.email) →
    (address ∈ recipients.map Recipient.email
      ↔ config.notifyParticipants ∧ ∃ participant ∈ records.participants.rows,
        records.Reaches calendar.id day address participant)
  guest : ∀ recipient ∈ recipients, recipient.isOwner = false → ∃ participant,
    records.participants.rows.find?
        (fun other => records.Reaches calendar.id day recipient.email other) = some participant
      ∧ recipient = ⟨recipient.email, participant.name, participant.locale, participant.id,
        some participant.id, false⟩

theorem collected_recipients (records : Records) (calendar : Calendar) (config : NotifyConfig)
    (day : Date) :
    records.Collected calendar config day (records.recipients calendar config day) where
  distinct := Recipient.nodup_distinct _
  owner owner known := by
    rw [recipients_of_owner known, Recipient.ofOwner, participantsOf, List.find?_filter]
    simp only [decide_eq_true_eq]
    refine ⟨_, rfl, ?_⟩
    intro guest inside
    exact isOwner_of_mem_informed (List.mem_of_mem_filter inside)
  ownerless unknown := by
    rw [recipients_of_ownerless unknown]
    intro recipient inside
    exact isOwner_of_mem_informed inside
  reached address others := by
    rw [List.mem_map]
    constructor
    · rintro ⟨recipient, inside, rfl⟩
      rcases mem_recipients_iff.mp inside with ⟨owner, known, rfl⟩ | ⟨guest, -⟩
      · exact absurd rfl (others owner known)
      · obtain ⟨asked, participant, found, -⟩ := mem_distinct_informed_iff.mp guest
        exact ⟨asked, participant, List.mem_of_find?_eq_some found, reaches_of_find? found⟩
    · rintro ⟨asked, participant, inside, reaches⟩
      obtain ⟨first, found⟩ := exists_find?_of_reaches inside reaches
      refine ⟨⟨address, first.name, first.locale, first.id, some first.id, false⟩, ?_, rfl⟩
      apply mem_recipients_iff.mpr
      exact .inr ⟨mem_distinct_informed_iff.mpr ⟨asked, first, found, rfl⟩, others⟩
  guest recipient inside isGuest := by
    rcases mem_recipients_iff.mp inside with ⟨owner, -, rfl⟩ | ⟨guest, -⟩
    · cases isGuest
    · exact (mem_distinct_informed_iff.mp guest).2

theorem mailingList_eq_ok_iff {recipients : List Recipient} :
    records.mailingList calendar config day = .ok recipients
      ↔ (config.notifyParticipants → records.checkSpan calendar.id day day = .ok ())
        ∧ records.recipients calendar config day = recipients := by
  unfold mailingList
  cases config.notifyParticipants with
  | false => simp [pure, Except.pure]
  | true =>
    cases records.checkSpan calendar.id day day with
    | error failure => simp [bind, Except.bind]
    | ok => simp [bind, Except.bind, pure, Except.pure]

/-- There is a list of recipients where no participants are to be told, and where the date can be
looked through; it is what it is to be. -/
theorem mailingList_collected (records : Records) (calendar : Calendar) (config : NotifyConfig)
    (day : Date) :
    ((∃ recipients, records.mailingList calendar config day = .ok recipients)
      ↔ (config.notifyParticipants → records.Comparable calendar.id day day
        ∧ records.Foreseeable calendar.id day day))
    ∧ ∀ recipients, records.mailingList calendar config day = .ok recipients →
      records.Collected calendar config day recipients := by
  constructor
  · simp [mailingList_eq_ok_iff, checkSpan_eq_ok_iff]
  · intro recipients listed
    rw [← (mailingList_eq_ok_iff.mp listed).2]
    exact collected_recipients records calendar config day

/-- Two availabilities of a date that cannot be put in order keep the owner from being written
to as well. -/
theorem mailingList_of_disordered :
    let config := { NotifyConfig.sample with notifyParticipants := true }
    Board.disordered.records.mailingList .sample config .sample = .error .incomparable := rfl

end Records

end Rendezvous
