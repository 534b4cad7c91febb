import Mathlib.Logic.Relation
import Startrail.Proxies.Slots

/-!
Who decides what code a proxy runs. Provided that the implementations leave the two
words of the proxies alone, the words change only where the admin of a proxy says
so, in person or as the owner of the `ProxyAdmin`, and where somebody is the first
to name the admin of a `StartrailProxyLUM`. A renounced ownership is final.
-/

namespace Startrail.Proxies

/-- Who is in charge of the proxies. -/
structure Control where
  owner : Address
  slots : Address → Option Slots

def control (ours : Address → Bool) (whole : State) : Control :=
  ⟨whole._owner, fun address =>
    if ours address then
      (whole.kinds address).map fun kind => slotsOf kind (whole.storage address)
    else none⟩

def Control.set (control : Control) (proxy : Address) (slots : Slots) : Control :=
  { control with slots := Function.update control.slots proxy (some slots) }

/-- The transaction is from the admin to its proxy, or from the owner to the `ProxyAdmin` that is
the admin. -/
inductive Commands (proxyAdmin : Address) (transaction : Transaction) (control : Control)
    (proxy : Address) (slots : Slots) : Function → Prop
  | direct {data function} : transaction.target = .proxy proxy data →
      decode slots.kind transaction.value data = .ok (some function) →
      transaction.sender = slots.admin →
      Commands proxyAdmin transaction control proxy slots function
  | through {call function} : transaction.target = .proxyAdmin call →
      call.asks = some (proxy, function) → transaction.sender = control.owner →
      slots.admin = proxyAdmin → Commands proxyAdmin transaction control proxy slots function

/-- Sent from outside. -/
structure Sent (proxyAdmin : Address) (sent : List Transaction) (transaction : Transaction) :
    Prop where
  sent : transaction ∈ sent
  outside : transaction.sender ≠ proxyAdmin
  sender : transaction.sender ≠ 0

inductive Move (proxyAdmin : Address) (sent : List Transaction) (control : Control) :
    Control → Prop
  | created {transaction address creation} : Sent proxyAdmin sent transaction →
      transaction.target = .create address creation → control.slots address = none →
      (transaction.code creation.logic).isSome = true →
      Move proxyAdmin sent control (control.set address
        ⟨creation.kind, creation.admin.getD 0, creation.logic⟩)
  | upgraded {transaction proxy slots function implementation} :
      Sent proxyAdmin sent transaction → control.slots proxy = some slots →
      Commands proxyAdmin transaction control proxy slots function →
      function.installs = some implementation →
      (transaction.code implementation).isSome = true →
      Move proxyAdmin sent control (control.set proxy { slots with implementation })
  | handedOver {transaction proxy slots newAdmin} : Sent proxyAdmin sent transaction →
      control.slots proxy = some slots →
      Commands proxyAdmin transaction control proxy slots (.changeAdmin newAdmin) →
      newAdmin ≠ 0 →
      Move proxyAdmin sent control (control.set proxy { slots with admin := newAdmin })
  | claimed {transaction proxy data implementation _proxyAdmin} :
      Sent proxyAdmin sent transaction → transaction.target = .proxy proxy data →
      control.slots proxy = some ⟨.startrailProxyLUM, 0, implementation⟩ →
      decode .startrailProxyLUM transaction.value data =
        .ok (some (.initializeAdmin _proxyAdmin)) →
      Move proxyAdmin sent control (control.set proxy
        ⟨.startrailProxyLUM, _proxyAdmin, implementation⟩)
  | transferred {transaction newOwner} : Sent proxyAdmin sent transaction →
      transaction.target = .proxyAdmin (.transferOwnership newOwner) →
      transaction.sender = control.owner → newOwner ≠ 0 →
      Move proxyAdmin sent control { control with owner := newOwner }
  | renounced {transaction} : Sent proxyAdmin sent transaction →
      transaction.target = .proxyAdmin .renounceOwnership →
      transaction.sender = control.owner →
      Move proxyAdmin sent control { control with owner := 0 }

section Controls

variable {ours : Address → Bool} {whole : State} {address : Address}

theorem control_put {kind : Kind} (mine : ours address = true)
    (live : whole.kinds address = some kind) (storage : Storage) :
    control ours ((proxyPart address).put whole storage) =
      (control ours whole).set address (slotsOf kind storage) := by
  unfold control Control.set proxyPart
  congr
  funext other
  by_cases here : other = address
  · subst here
    simp [live, mine]
  · simp [Function.update_of_ne here]

theorem control_put_other (other : ours address = false) (storage : Storage) :
    control ours ((proxyPart address).put whole storage) = control ours whole := by
  unfold control proxyPart
  congr
  funext proxy
  by_cases here : proxy = address
  · subst here
    simp [other]
  · simp [Function.update_of_ne here]

theorem control_put_same {storage : Storage} (same : SameSlots (whole.storage address) storage) :
    control ours ((proxyPart address).put whole storage) = control ours whole := by
  unfold control proxyPart
  congr
  funext other
  by_cases here : other = address
  · subst here
    simp only [Function.update_self]
    split
    · cases whole.kinds other with
      | none => rfl
      | some kind => exact congrArg some (same.slotsOf kind)
    · rfl
  · simp only [Function.update_of_ne here]

theorem control_slots {kind : Kind} (mine : ours address = true)
    (live : whole.kinds address = some kind) :
    (control ours whole).slots address = some (slotsOf kind (whole.storage address)) := by
  simp [control, live, mine]

theorem Control.set_same {control : Control} {slots : Slots}
    (same : control.slots address = some slots) : control.set address slots = control := by
  simp only [Control.set, ← same, Function.update_eq_self]

end Controls

section Runs

/-- What is looked at: the proxies, the transactions and the first state. -/
structure Watch where
  proxyAdmin : Address
  ours : Address → Bool
  sent : List Transaction
  first : State

variable {watch : Watch} {whole later : State} {address : Address}

def LiveTaken (whole : State) : Prop :=
  ∀ address, whole.taken address = false → whole.kinds address = none

/-- What happens while a call waits. -/
structure Later (watch : Watch) (before after : State) : Prop where
  moves : Relation.ReflTransGen (Move watch.proxyAdmin watch.sent) (control watch.ours before)
    (control watch.ours after)
  settled : ∀ address, before.taken address = true →
    after.taken address = true ∧ after.kinds address = before.kinds address

theorem Later.refl (whole : State) : Later watch whole whole :=
  ⟨.refl, fun _ taken => ⟨taken, rfl⟩⟩

theorem Later.trans {first middle last : State} (before : Later watch first middle)
    (after : Later watch middle last) : Later watch first last := by
  refine ⟨before.moves.trans after.moves, ?_⟩
  intro address taken
  obtain ⟨taken', same⟩ := before.settled address taken
  obtain ⟨taken'', same'⟩ := after.settled address taken'
  exact ⟨taken'', same'.trans same⟩

/-- A state of the run that began with `first`. -/
structure Since (watch : Watch) (whole : State) : Prop where
  live : LiveTaken whole
  later : Later watch watch.first whole

/-- Code that keeps the rule, up to what it ends in. -/
abbrev Administered (watch : Watch) (whole : State) (execution : Execution State State) : Prop :=
  execution.Obeys (Since watch) (Later watch)
    (fun later => Since watch later ∧ Later watch whole later)

theorem put_kept {storage : Storage} (inv : Since watch whole)
    (moves : Relation.ReflTransGen (Move watch.proxyAdmin watch.sent) (control watch.ours whole)
      (control watch.ours ((proxyPart address).put whole storage))) :
    Since watch ((proxyPart address).put whole storage) ∧
      Later watch whole ((proxyPart address).put whole storage) :=
  have step : Later watch whole ((proxyPart address).put whole storage) :=
    ⟨moves, fun _ taken => ⟨taken, rfl⟩⟩
  ⟨⟨inv.live, inv.later.trans step⟩, step⟩

theorem serve_obeys (query : Query) (whole : State) (inv : Since watch whole) :
    (serve query whole).Obeys (Since watch) (Later watch)
      (fun value => Since watch value.1 ∧ Later watch whole value.1) :=
  Outcome.Obeys.external inv

section Asked

variable {code : Code} {sender : Address} {value : Uint256} {kind : Kind} {data : Bytes}

theorem callOther_administered {target : Address} (inv : Since watch whole) :
    Administered watch whole
      (callOther watch.proxyAdmin code value target data whole) := by
  unfold callOther
  split
  · trivial
  · refine Outcome.Obeys.bind (serve_obeys _ _ inv) ?_
    rintro ⟨later, reply⟩ kept
    dsimp only
    split
    · exact kept
    · trivial

theorem callProxy_other (other : watch.ours address = false) (inv : Since watch whole) :
    Administered watch whole
      (callProxy code sender value kind address data whole) := by
  have kept : ∀ {whole : State} {storage : Storage}, Since watch whole →
      Since watch ((proxyPart address).put whole storage) ∧
        Later watch whole ((proxyPart address).put whole storage) := by
    intro whole storage inv
    refine put_kept inv ?_
    rw [control_put_other other]
  refine Outcome.Obeys.bind (Outcome.Obeys.plug (Since watch) (Later watch) Later.trans
    (fun inv _ => kept inv) serve_obeys inv (Later.refl whole) (.trivial _ _)) ?_
  rintro ⟨later, storage, returndata⟩ ⟨inv', since, _⟩
  obtain ⟨inv'', since'⟩ := kept inv'
  exact ⟨inv'', since.trans since'⟩

theorem callProxy_mine (mine : watch.ours address = true) (inv : Since watch whole)
    (live : whole.kinds address = some kind)
    (sound : KeepsSlotsAt code (_implementation (whole.storage address)))
    (installed : ∀ function implementation, decode kind value data = .ok (some function) →
      sender = _admin (whole.storage address) → function.installs = some implementation →
      KeepsSlotsAt code implementation)
    (ruled : ∀ function slots, decode kind value data = .ok (some function) →
      Rules code sender (slotsOf kind (whole.storage address)) function slots →
      Move watch.proxyAdmin watch.sent (control watch.ours whole)
        ((control watch.ours whole).set address slots)) :
    Administered watch whole
      (callProxy code sender value kind address data whole) := by
  have kept : ∀ {whole storage}, Since watch whole → SameSlots (whole.storage address) storage →
      Since watch ((proxyPart address).put whole storage) ∧
        Later watch whole ((proxyPart address).put whole storage) := by
    intro whole storage inv same
    refine put_kept inv ?_
    rw [control_put_same same]
  have written : ∀ storage, Writes code kind ⟨sender, value, data⟩ (whole.storage address) storage →
      Since watch ((proxyPart address).put whole storage) ∧
        Later watch whole ((proxyPart address).put whole storage) := by
    intro storage writes
    refine put_kept inv ?_
    rw [control_put mine live]
    rcases writes with same | ⟨function, decoded, rules⟩
    · rw [same, Control.set_same (control_slots mine live)]
    · exact .single (ruled function _ decoded rules)
  refine Outcome.Obeys.bind (Outcome.Obeys.plug_opening (Since watch) (Later watch)
    Later.trans kept serve_obeys written ?_ ?_ (call_ruled sound installed))
    fun value kept => kept
  · exact fun value writes => written value.1 writes
  · intro later value inv since same
    obtain ⟨inv', since'⟩ := kept inv same
    exact ⟨inv', since.trans since'⟩

end Asked

/-- The transaction makes this the implementation of one of the proxies. -/
inductive Installs (proxyAdmin : Address) (ours : Address → Bool) (transaction : Transaction)
    (whole : State) : Address → Prop
  | created {address creation} : transaction.target = .create address creation →
      ours address = true → Installs proxyAdmin ours transaction whole creation.logic
  | commanded {proxy slots function implementation} :
      (control ours whole).slots proxy = some slots →
      Commands proxyAdmin transaction (control ours whole) proxy slots function →
      function.installs = some implementation →
      Installs proxyAdmin ours transaction whole implementation

/-- Nobody else calls in the name of the `ProxyAdmin`, and the implementations of the proxies leave
their two words alone. -/
structure Legal (proxyAdmin : Address) (ours : Address → Bool) (transaction : Transaction)
    (whole : State) : Prop where
  outside : transaction.sender ≠ proxyAdmin
  sender : transaction.sender ≠ 0
  installed : ∀ address kind, ours address = true → whole.kinds address = some kind →
    KeepsSlotsAt transaction.code (_implementation (whole.storage address))
  installs : ∀ implementation, Installs proxyAdmin ours transaction whole implementation →
    KeepsSlotsAt transaction.code implementation

variable {transaction : Transaction}

theorem Legal.was (legal : Legal watch.proxyAdmin watch.ours transaction whole)
    (belongs : transaction ∈ watch.sent) : Sent watch.proxyAdmin watch.sent transaction :=
  ⟨belongs, legal.outside, legal.sender⟩

theorem proxy_administered {data : Bytes} {kind : Kind}
    (legal : Legal watch.proxyAdmin watch.ours transaction whole)
    (belongs : transaction ∈ watch.sent)
    (inv : Since watch whole) (target : transaction.target = .proxy address data)
    (live : whole.kinds address = some kind) :
    Administered watch whole (callProxy transaction.code transaction.sender
      transaction.value kind address data whole) := by
  cases mine : watch.ours address with
  | false => exact callProxy_other mine inv
  | true =>
      have slots := control_slots mine live
      have was := legal.was belongs
      refine callProxy_mine mine inv live (legal.installed address kind mine live) ?_ ?_
      · intro function implementation decoded admin installs
        exact legal.installs _ (.commanded slots (.direct target decoded admin) installs)
      · intro function slots' decoded rules
        cases rules with
        | upgraded admin installs present =>
            exact .upgraded was slots (.direct target decoded admin) installs present
        | handedOver admin asked given =>
            subst asked
            exact .handedOver was slots (.direct target decoded admin) given
        | claimed asked unset =>
            subst asked
            obtain rfl := decode_initializeAdmin decoded
            have blank : slotsOf .startrailProxyLUM (whole.storage address) =
                ⟨.startrailProxyLUM, 0, _implementation (whole.storage address)⟩ :=
              congrArg (Slots.mk _ · _) unset
            rw [blank] at slots ⊢
            exact .claimed was target slots decoded

theorem ask_administered {call : AdminCall} {asked : Function} {value : Uint256} {data : Bytes}
    (legal : Legal watch.proxyAdmin watch.ours transaction whole)
    (belongs : transaction ∈ watch.sent)
    (inv : Since watch whole) (target : transaction.target = .proxyAdmin call)
    (asks : call.asks = some (address, asked)) (owner : transaction.sender = whole._owner)
    (answers : ∀ kind function, decode kind value data = .ok (some function) →
      Answers asked function) :
    Administered watch whole
      (ask watch.proxyAdmin transaction.code value address data whole) := by
  unfold ask
  cases live : whole.kinds address with
  | none => exact callOther_administered inv
  | some kind =>
      cases mine : watch.ours address with
      | false => exact callProxy_other mine inv
      | true =>
          have slots := control_slots mine live
          have was := legal.was belongs
          have commands : watch.proxyAdmin = _admin (whole.storage address) →
              Commands watch.proxyAdmin transaction (control watch.ours whole) address
                (slotsOf kind (whole.storage address)) asked :=
            fun admin => .through target asks owner admin.symm
          refine callProxy_mine mine inv live (legal.installed address kind mine live) ?_ ?_
          · intro function implementation decoded admin installs
            rw [(answers kind function decoded).installs] at installs
            exact legal.installs _ (.commanded slots (commands admin) installs)
          · intro function slots' decoded rules
            have answer := answers kind function decoded
            cases rules with
            | upgraded admin installs present =>
                rw [answer.installs] at installs
                exact .upgraded was slots (commands admin) installs present
            | handedOver admin changes given =>
                obtain rfl := answer.changes _ changes
                exact .handedOver was slots (commands admin) given
            | claimed claims _ => exact absurd claims (answer.elsewise _)

theorem owner_kept {newOwner : Address} (inv : Since watch whole)
    (move : Move watch.proxyAdmin watch.sent (control watch.ours whole)
      { control watch.ours whole with owner := newOwner }) :
    Since watch { whole with _owner := newOwner } ∧
      Later watch whole { whole with _owner := newOwner } :=
  have step : Later watch whole { whole with _owner := newOwner } :=
    ⟨.single move, fun _ taken => ⟨taken, rfl⟩⟩
  ⟨⟨inv.live, inv.later.trans step⟩, step⟩

theorem administer_administered {call : AdminCall}
    (legal : Legal watch.proxyAdmin watch.ours transaction whole)
    (belongs : transaction ∈ watch.sent)
    (inv : Since watch whole) (target : transaction.target = .proxyAdmin call) :
    Administered watch whole (administer watch.proxyAdmin transaction.code
      transaction.sender transaction.value whole call) := by
  have was := legal.was belongs
  cases call with
  | renounceOwnership =>
      refine Outcome.Obeys.lift_bind fun _ _ => Outcome.Obeys.lift_bind fun _ owner => ?_
      rw [onlyOwner, require_eq_ok] at owner
      exact owner_kept inv (.renounced was target owner)
  | transferOwnership newOwner =>
      refine Outcome.Obeys.lift_bind fun _ _ => Outcome.Obeys.lift_bind fun _ owner => ?_
      refine Outcome.Obeys.lift_bind fun _ given => ?_
      rw [onlyOwner, require_eq_ok] at owner
      rw [require_eq_ok] at given
      exact owner_kept inv (.transferred was target owner given)
  | changeProxyAdmin proxy newAdmin =>
      refine Outcome.Obeys.lift_bind fun _ _ => Outcome.Obeys.lift_bind fun _ owner => ?_
      rw [onlyOwner, require_eq_ok] at owner
      exact ask_administered legal belongs inv target rfl owner
        fun _ _ => decode_changeAdmin (addressAt_encode newAdmin [])
  | upgrade proxy implementation =>
      refine Outcome.Obeys.lift_bind fun _ _ => Outcome.Obeys.lift_bind fun _ owner => ?_
      rw [onlyOwner, require_eq_ok] at owner
      exact ask_administered legal belongs inv target rfl owner
        fun _ _ => decode_upgradeTo (addressAt_encode implementation [])
  | upgradeAndCall proxy implementation data =>
      refine Outcome.Obeys.lift_bind fun _ owner => ?_
      rw [onlyOwner, require_eq_ok] at owner
      exact ask_administered legal belongs inv target rfl owner
        fun _ _ => decode_upgradeToAndCall data (addressAt_encode implementation _)

section Created

variable {code : Code} {sender : Address} {value : Uint256} {creation : Creation}

def Creation.slots (creation : Creation) : Slots :=
  ⟨creation.kind, creation.admin.getD 0, creation.logic⟩

def Creation.Unset (creation : Creation) (storage : Storage) : Prop :=
  slotsOf creation.kind storage = ⟨creation.kind, 0, creation.logic⟩

theorem Creation.Unset.same {storage storage' : Storage} (unset : creation.Unset storage)
    (same : SameSlots storage storage') : creation.Unset storage' :=
  (same.slotsOf creation.kind).trans unset

theorem Creation.Unset.finished {storage : Storage} (unset : creation.Unset storage) :
    slotsOf creation.kind (creation.admin.elim storage (_setAdmin storage)) = creation.slots := by
  unfold Creation.slots
  cases creation.admin with
  | none => exact unset
  | some _admin =>
      exact (slotsOf_setAdmin _ _ _).trans
        (congrArg (fun slots => { slots with admin := _admin }) unset)

theorem callLogic_unset {storage : Storage} (sound : KeepsSlotsAt code creation.logic) :
    (Creation.callLogic code sender value storage creation).Segments
      (fun before after => creation.Unset before → creation.Unset after)
      (fun before after => creation.Unset before → creation.Unset after) storage := by
  unfold Creation.callLogic
  split
  · have called : ((delegatecall code ⟨sender, value, creation.data⟩ storage
        creation.logic).failWith .empty).Segments SameSlots
        (fun before value => SameSlots before value.1) storage :=
      (delegatecall_keeps sound).failWith .empty
    have unset : ((delegatecall code ⟨sender, value, creation.data⟩ storage
        creation.logic).failWith .empty).Segments
        (fun before after => creation.Unset before → creation.Unset after)
        (fun before value => creation.Unset before → creation.Unset value.1) storage :=
      called.mono (fun _ _ same unset => unset.same same) (fun _ _ same unset => unset.same same)
    exact Outcome.Segments.bind unset fun _ _ kept => kept
  · exact id

theorem construct_slots (sound : KeepsSlotsAt code creation.logic) (inv : Since watch whole) :
    ((Creation.construct code sender value (fun _ => 0) creation).aside serve whole).Obeys
      (Since watch) (Later watch) (fun value => Since watch value.1 ∧ Later watch whole value.1 ∧
        (code creation.logic).isSome = true ∧
        slotsOf creation.kind value.2 = creation.slots) := by
  refine Outcome.Obeys.aside_lift_bind fun storage accepted => ?_
  obtain ⟨present, changed⟩ := setImplementation_slots creation.kind accepted
  have unset : creation.Unset storage := changed
  have ended : (Creation.callLogic code sender value storage creation >>= fun storage =>
      pure (creation.admin.elim storage (_setAdmin storage))).Segments
      (fun before after => creation.Unset before → creation.Unset after)
      (fun before after => creation.Unset before →
        slotsOf creation.kind after = creation.slots) storage :=
    Outcome.Segments.bind (callLogic_unset sound) fun _ _ kept before => (kept before).finished
  refine (Outcome.Obeys.aside (Since watch) (Later watch) Later.trans serve_obeys inv
    (Later.refl whole) ended unset).mono ?_
  exact fun value kept => ⟨kept.1, kept.2.1, present, kept.2.2⟩

theorem construct_other (inv : Since watch whole) :
    ((Creation.construct code sender value (fun _ => 0) creation).aside serve whole).Obeys
      (Since watch) (Later watch)
      (fun value => Since watch value.1 ∧ Later watch whole value.1) := by
  have steps : (Creation.construct code sender value (fun _ => 0) creation).Segments
      (fun _ _ => True → True) (fun _ _ => True → True) (fun _ => 0) :=
    (Outcome.Segments.trivial _ _).mono (fun _ _ => fun _ => id) (fun _ _ => fun _ => id)
  refine (Outcome.Obeys.aside (Since watch) (Later watch) Later.trans serve_obeys inv
    (Later.refl whole) steps trivial).mono ?_
  exact fun value kept => ⟨kept.1, kept.2.1⟩

end Created

section Created

variable {kind : Kind} {storage : Storage}

theorem control_created (mine : watch.ours address = true) :
    control watch.ours (later.created address kind storage) =
      (control watch.ours later).set address (slotsOf kind storage) := by
  unfold control Control.set State.created proxyPart
  congr
  funext other
  by_cases here : other = address
  · subst here
    simp [mine]
  · simp [Function.update_of_ne here]

theorem control_created_other (other : watch.ours address = false) :
    control watch.ours (later.created address kind storage) = control watch.ours later := by
  unfold control State.created proxyPart
  congr
  funext proxy
  by_cases here : proxy = address
  · subst here
    simp [other]
  · simp [Function.update_of_ne here]

theorem begun_kept (address : Address) (inv : Since watch whole) :
    Since watch (whole.begun address) := by
  have taken : ∀ other, whole.taken other = true → (whole.begun address).taken other = true := by
    intro other taken
    by_cases here : other = address
    · simp [State.begun, here]
    · simpa [State.begun, Function.update_of_ne here] using taken
  refine ⟨?_, inv.later.trans ⟨.refl, fun other was => ⟨taken other was, rfl⟩⟩⟩
  intro other free
  refine inv.live other (Bool.eq_false_iff.mpr fun was => ?_)
  rw [taken other was] at free
  cases free

theorem created_kept (before : Since watch whole) (fresh : whole.taken address = false)
    (inv : Since watch later)
    (since : Later watch (whole.begun address) later)
    (moves : Relation.ReflTransGen (Move watch.proxyAdmin watch.sent) (control watch.ours later)
      (control watch.ours (later.created address kind storage))) :
    Since watch (later.created address kind storage) ∧
      Later watch whole (later.created address kind storage) := by
  have taken := (since.settled address (by simp [State.begun])).1
  have apart : ∀ other, whole.taken other = true → other ≠ address := by
    rintro other was rfl
    rw [fresh] at was
    cases was
  have step : Later watch whole (later.created address kind storage) := by
    refine ⟨since.moves.trans moves, fun other was => ?_⟩
    have held : (whole.begun address).taken other = true := by
      simpa [State.begun, Function.update_of_ne (apart other was)] using was
    obtain ⟨held', same⟩ := since.settled other held
    exact ⟨held', (Function.update_of_ne (apart other was) _ _).trans same⟩
  refine ⟨⟨fun other free => ?_, before.later.trans step⟩, step⟩
  have elsewhere : other ≠ address := by
    rintro rfl
    rw [show later.taken other = false from free] at taken
    cases taken
  exact (Function.update_of_ne elsewhere _ _).trans (inv.live other free)

end Created

theorem create_administered {creation : Creation}
    (legal : Legal watch.proxyAdmin watch.ours transaction whole)
    (belongs : transaction ∈ watch.sent) (inv : Since watch whole)
    (target : transaction.target = .create address creation) :
    Administered watch whole (create transaction.code transaction.sender transaction.value address
      creation whole) := by
  have was := legal.was belongs
  unfold create
  split
  · trivial
  rename_i free
  have fresh : whole.taken address = false := by simpa using free
  have begun := begun_kept address inv
  cases mine : watch.ours address with
  | false =>
      refine Outcome.Obeys.bind (construct_other begun) ?_
      rintro ⟨later, storage⟩ ⟨inv', since⟩
      refine created_kept inv fresh inv' since ?_
      rw [control_created_other mine]
  | true =>
      refine Outcome.Obeys.bind (construct_slots (legal.installs _ (.created target mine)) begun) ?_
      rintro ⟨later, storage⟩ ⟨inv', since, present, slots⟩
      refine created_kept inv fresh inv' since ?_
      have absent : (control watch.ours later).slots address = none := by
        have same := (since.settled address (by simp [State.begun])).2
        have none_ : later.kinds address = none := same.trans (inv.live address fresh)
        simp [control, none_]
      rw [control_created mine, show slotsOf creation.kind storage = creation.slots from slots]
      exact .single (.created was target absent present)

theorem entry_administered (legal : Legal watch.proxyAdmin watch.ours transaction whole)
    (belongs : transaction ∈ watch.sent) (inv : Since watch whole) :
    Administered watch whole (entry watch.proxyAdmin transaction whole) := by
  unfold entry
  cases target : transaction.target with
  | create address creation => exact create_administered legal belongs inv target
  | proxyAdmin call => exact administer_administered legal belongs inv target
  | proxy address data =>
      dsimp only
      cases live : whole.kinds address with
      | none => exact ⟨inv, .refl whole⟩
      | some kind => exact proxy_administered legal belongs inv target live

end Runs

section Theorems

variable {proxyAdmin : Address} {ours : Address → Bool} {origin : State}
  {config : Config Revert State Query Reply Transaction}

theorem reach_since (settled : LiveTaken origin)
    (reach : Reach (entry proxyAdmin) (Legal proxyAdmin ours) origin config) :
    Since ⟨proxyAdmin, ours, config.now.trace, origin⟩ config.now.state := by
  refine reach.within.obeys (@Later.refl ⟨proxyAdmin, ours, config.now.trace, origin⟩)
    Later.trans ?_ ⟨settled, .refl origin⟩
  exact fun _ _ legal inv => entry_administered legal.1 legal.2 inv

/-- In every run, however the calls are nested, the proxies are under the control that the
transactions of the run have given, one after the other, each by who was in charge by then. -/
theorem proxies_administered (owner : Address)
    (reach : Reach (entry proxyAdmin) (Legal proxyAdmin ours) (.deployed proxyAdmin owner) config) :
    Relation.ReflTransGen (Move proxyAdmin config.now.trace) ⟨owner, fun _ => none⟩
      (control ours config.now.state) := by
  have blank : control ours (.deployed proxyAdmin owner) = ⟨owner, fun _ => none⟩ := by
    simp [control, State.deployed]
  rw [← blank]
  exact (reach_since (fun _ _ => rfl) reach).later.moves

def counterLogic : Logic := fun _ storage =>
  .done (Function.update storage 0 (storage 0 + 1), [])

theorem counterLogic_keepsSlots : counterLogic.KeepsSlots := by
  intro message storage
  have implementation : IMPLEMENTATION_SLOT ≠ 0 := by decide
  have admin : ADMIN_SLOT ≠ 0 := by decide
  exact ⟨Function.update_of_ne implementation (storage 0 + 1) storage,
    Function.update_of_ne admin (storage 0 + 1) storage⟩

def counterCode : Code := fun target =>
  if target = 0x51 ∨ target = 0x52 then some counterLogic else none

theorem counterCode_keepsSlots (target : Address) : KeepsSlotsAt counterCode target := by
  intro logic found
  unfold counterCode at found
  split at found
  · cases found
    exact counterLogic_keepsSlots
  · cases found

theorem counterCode_legal {sender : Address} {value : Uint256} {target : Target} {whole : State}
    (outside : sender ≠ 0xad) (given : sender ≠ 0) :
    Legal 0xad ours ⟨counterCode, sender, value, target⟩ whole :=
  ⟨outside, given, fun _ _ _ _ => counterCode_keepsSlots _, fun _ _ => counterCode_keepsSlots _⟩

/-- A proxy is created and upgraded, and then the ownership renounced. -/
def upgradedRun : Config Revert State Query Reply Transaction :=
  ((((Config.start (.deployed 0xad 0xb0b)).enter (entry 0xad)
    ⟨counterCode, 0xb0b, 0, .create 0x90 (.startrailProxy 0x51 0xad [])⟩).enter (entry 0xad)
    ⟨counterCode, 0xe7e, 0, .proxy 0x90 [1, 2, 3, 4]⟩).enter (entry 0xad)
    ⟨counterCode, 0xb0b, 0, .proxyAdmin (.upgradeAndCall 0x90 0x52 [1, 2, 3, 4])⟩).enter
    (entry 0xad) ⟨counterCode, 0xb0b, 0, .proxyAdmin .renounceOwnership⟩

theorem upgradedRun_reach : Reach (entry 0xad) (Legal 0xad ours) (.deployed 0xad 0xb0b)
    upgradedRun :=
  (((Reach.start.enter _ (counterCode_legal (by decide) (by decide))).enter _
    (counterCode_legal (by decide) (by decide))).enter _
    (counterCode_legal (by decide) (by decide))).enter _
    (counterCode_legal (by decide) (by decide))

example : upgradedRun.now.state.storage 0x90 0 = 2 := by decide +kernel

theorem upgradedRun_administered :
    Relation.ReflTransGen (Move 0xad upgradedRun.now.trace) ⟨0xb0b, fun _ => none⟩
        (control (fun _ => true) upgradedRun.now.state) ∧
      (control (fun _ => true) upgradedRun.now.state).slots 0x90 =
        some ⟨.startrailProxy, 0xad, 0x52⟩ :=
  ⟨proxies_administered 0xb0b upgradedRun_reach, by decide +kernel⟩

/-- The rule of the owner is over. -/
theorem Commands.over {transaction : Transaction} {control : Control} {proxy : Address}
    {slots : Slots} {function : Function} {sent : List Transaction}
    (was : Sent proxyAdmin sent transaction) (renounced : control.owner = 0)
    (admin : slots.admin = proxyAdmin) :
    ¬ Commands proxyAdmin transaction control proxy slots function := by
  intro commands
  cases commands with
  | direct _ _ sender => exact was.outside (sender.trans admin)
  | through _ _ sender _ => exact was.sender (sender.trans renounced)

theorem Move.frozen {sent : List Transaction} {before after : Control} {proxy : Address}
    {slots : Slots} (given : proxyAdmin ≠ 0) (move : Move proxyAdmin sent before after)
    (renounced : before.owner = 0) (found : before.slots proxy = some slots)
    (admin : slots.admin = proxyAdmin) :
    after.owner = 0 ∧ after.slots proxy = some slots := by
  have other : ∀ address slots', address ≠ proxy →
      (before.set address slots').owner = 0 ∧
        (before.set address slots').slots proxy = some slots := by
    intro address slots' apart
    exact ⟨renounced, (Function.update_of_ne apart.symm _ _).trans found⟩
  cases move with
  | created _ _ absent _ =>
      refine other _ _ ?_
      rintro rfl
      rw [absent] at found
      cases found
  | upgraded was found' commands _ _ =>
      refine other _ _ ?_
      rintro rfl
      cases found.symm.trans found'
      exact Commands.over was renounced admin commands
  | handedOver was found' commands _ =>
      refine other _ _ ?_
      rintro rfl
      cases found.symm.trans found'
      exact Commands.over was renounced admin commands
  | claimed _ _ found' _ =>
      refine other _ _ ?_
      rintro rfl
      cases found.symm.trans found'
      exact given admin.symm
  | transferred was _ sender _ => exact absurd (sender.trans renounced) was.sender
  | renounced was _ sender => exact absurd (sender.trans renounced) was.sender

/-- Once the owner has renounced, no proxy of the `ProxyAdmin` changes its code or its admin. -/
theorem renounced_frozen {proxy : Address} {kind : Kind} (given : proxyAdmin ≠ 0)
    (mine : ours proxy = true) (settled : LiveTaken origin) (renounced : origin._owner = 0)
    (live : origin.kinds proxy = some kind) (admin : _admin (origin.storage proxy) = proxyAdmin)
    (reach : Reach (entry proxyAdmin) (Legal proxyAdmin ours) origin config) :
    config.now.state._owner = 0 ∧ config.now.state.kinds proxy = some kind ∧
      _admin (config.now.state.storage proxy) = proxyAdmin ∧
      _implementation (config.now.state.storage proxy) =
        _implementation (origin.storage proxy) := by
  have found : (control ours origin).slots proxy = some ⟨kind, proxyAdmin,
      _implementation (origin.storage proxy)⟩ := by
    rw [control_slots mine live, slotsOf, admin]
  have frozen : ∀ {later}, Relation.ReflTransGen (Move proxyAdmin config.now.trace)
      (control ours origin) later → later.owner = 0 ∧ later.slots proxy = some ⟨kind, proxyAdmin,
        _implementation (origin.storage proxy)⟩ := by
    intro later moves
    induction moves with
    | refl => exact ⟨renounced, found⟩
    | tail _ move ih => exact move.frozen given ih.1 ih.2 rfl
  obtain ⟨owner, slots⟩ := frozen (reach_since settled reach).later.moves
  simp only [control, mine, if_true, Option.map_eq_some_iff, slotsOf, Slots.mk.injEq] at slots
  obtain ⟨_, live', rfl, admin', same⟩ := slots
  exact ⟨owner, live', admin', same⟩

/-- After the ownership was renounced somebody tries to go on as before. -/
def calledRun : Config Revert State Query Reply Transaction :=
  (Config.start upgradedRun.now.state).enter (entry 0xad)
    ⟨counterCode, 0xe7e, 0, .proxy 0x90 [1, 2, 3, 4]⟩

def frozenRun : Config Revert State Query Reply Transaction :=
  calledRun.enter (entry 0xad) ⟨counterCode, 0xb0b, 0, .proxyAdmin (.upgrade 0x90 0x51)⟩

theorem frozenRun_reach :
    Reach (entry 0xad) (Legal 0xad ours) upgradedRun.now.state frozenRun :=
  (Reach.start.enter _ (counterCode_legal (by decide) (by decide))).enter _
    (counterCode_legal (by decide) (by decide))

theorem frozenRun_frozen :
    frozenRun.now.state._owner = 0 ∧
      frozenRun.now.state.kinds 0x90 = some .startrailProxy ∧
      _admin (frozenRun.now.state.storage 0x90) = 0xad ∧
      _implementation (frozenRun.now.state.storage 0x90) =
        _implementation (upgradedRun.now.state.storage 0x90) := by
  have settled := (reach_since (fun _ _ => rfl) (@upgradedRun_reach fun _ => true)).live
  exact renounced_frozen (by decide) rfl settled (by decide +kernel) (by decide +kernel)
    (by decide +kernel) (@frozenRun_reach fun _ => true)

end Theorems

end Startrail.Proxies
