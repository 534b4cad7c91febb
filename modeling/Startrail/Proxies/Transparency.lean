import Startrail.Proxies.Administration

/-!
Behind its proxy a contract is what it would be by itself. As long as nobody rules
over the proxy, what happens to its storage happens in a run of the implementation
alone, with the messages that were sent to the proxy; and none of these comes from
the admin.
-/

namespace Startrail.Proxies

def Function.reads : Function → Bool
  | .admin => true
  | .implementation => true
  | _ => false

/-- The proxy keeps its implementation, and that its code. -/
structure Quiet (proxyAdmin proxy : Address) (logic : Logic) (transaction : Transaction)
    (whole : State) : Prop where
  code : transaction.code (_implementation (whole.storage proxy)) = some logic
  ruled : ∀ slots function, (control (fun _ => true) whole).slots proxy = some slots →
    Commands proxyAdmin transaction (control (fun _ => true) whole) proxy slots function →
    function.reads = true

/-- The transaction sends the message to the proxy, by itself or as the owner of the
`ProxyAdmin`. -/
inductive Sends (proxyAdmin proxy : Address) (transaction : Transaction) : Message → Prop
  | direct {data} : transaction.target = .proxy proxy data →
      Sends proxyAdmin proxy transaction ⟨transaction.sender, transaction.value, data⟩
  | through {call function value data} : transaction.target = .proxyAdmin call →
      call.asks = some (proxy, function) →
      Sends proxyAdmin proxy transaction ⟨proxyAdmin, value, data⟩

def standalone (logic : Logic) (message : Message) (storage : Storage) :
    Execution Storage Storage := do
  let (storage, _) ← logic message storage
  pure storage

/-- The implementation, run on the storage of the proxy. -/
def runLogic (proxy : Address) (logic : Logic) (message : Message) (whole : State) :
    Execution State State := do
  let (whole, storage, _) ← (logic message (whole.storage proxy)).plug (proxyPart proxy) serve whole
  pure ((proxyPart proxy).put whole storage)

/-- The calldata is well formed, and not meant to initialize the admin. -/
def Passes (kind : Kind) (message : Message) : Prop :=
  ∃ function, decode kind message.value message.data = .ok function ∧
    ∀ _proxyAdmin, function ≠ some (.initializeAdmin _proxyAdmin)

/-- Whoever is not the admin reaches the implementation, or is refused. -/
def Forwards (proxyAdmin proxy : Address) (kind : Kind) (logic : Logic) (whole : State) : Prop :=
  ∀ transaction data, Quiet proxyAdmin proxy logic transaction whole →
    transaction.target = .proxy proxy data →
    transaction.sender ≠ _admin (whole.storage proxy) →
    let message : Message := ⟨transaction.sender, transaction.value, data⟩
    (Passes kind message →
      entry proxyAdmin transaction whole = runLogic proxy logic message whole) ∧
    (¬Passes kind message → ∃ reason, entry proxyAdmin transaction whole = .revert reason)

def Delivered (proxyAdmin proxy : Address) (sent : List Transaction) (message : Message)
    (storage : Storage) : Prop :=
  message.sender ≠ _admin storage ∧
    ∃ transaction ∈ sent, Sends proxyAdmin proxy transaction message

section Calls

variable {code : Code} {message : Message} {storage : Storage} {kind : Kind} {logic : Logic}

theorem fallback_transparent (found : code (_implementation storage) = some logic)
    (stranger : message.sender ≠ _admin storage) :
    _fallback code message storage = logic message storage := by
  simp [_fallback, require, stranger, delegatecall, found]

/-- Calldata that names a function of the proxy is refused if it is malformed or comes with a
value that the function does not take; all other calls are left to the implementation, with what
they return. -/
theorem call_transparent (found : code (_implementation storage) = some logic)
    (stranger : message.sender ≠ _admin storage) (claimed : _admin storage ≠ 0) :
    (Passes kind message → call code message storage kind = logic message storage) ∧
      (¬Passes kind message → ∃ reason, call code message storage kind = .revert reason) := by
  unfold call
  cases decoded : decode kind message.value message.data with
  | error reason =>
      refine ⟨?_, fun _ => ⟨reason, rfl⟩⟩
      rintro ⟨function, passes, _⟩
      cases decoded.symm.trans passes
  | ok function =>
      by_cases initializes : ∃ _proxyAdmin, function = some (.initializeAdmin _proxyAdmin)
      · obtain ⟨_proxyAdmin, rfl⟩ := initializes
        refine ⟨?_, fun _ => ⟨.reason "admin already initialized", ?_⟩⟩
        · rintro ⟨function, passes, other⟩
          cases decoded.symm.trans passes
          exact absurd rfl (other _proxyAdmin)
        · have refused : initializeAdmin storage _proxyAdmin =
              .error (.reason "admin already initialized") := by
            rw [initializeAdmin, require, if_neg claimed]
            rfl
          simp [perform, refused]
      · refine ⟨fun _ => ?_, fun stays => absurd ⟨function, decoded, ?_⟩ stays⟩
        · cases function with
          | none => exact fallback_transparent found stranger
          | some function =>
              cases function with
              | initializeAdmin _proxyAdmin => exact absurd ⟨_proxyAdmin, rfl⟩ initializes
              | _ => simp [perform, ifAdmin, stranger, fallback_transparent found stranger]
        · exact fun _proxyAdmin same => initializes ⟨_proxyAdmin, same⟩

/-- The admin gets nothing from its proxy but what the proxy itself has to say. -/
theorem call_admin (admin : message.sender = _admin storage)
    (reads : ∀ function, decode kind message.value message.data = .ok (some function) →
      function.reads = true) :
    (∃ reason, call code message storage kind = .revert reason) ∨
      ∃ returndata, call code message storage kind = .done (storage, returndata) := by
  unfold call
  cases decoded : decode kind message.value message.data with
  | error reason => exact Or.inl ⟨reason, rfl⟩
  | ok function =>
      cases function with
      | none =>
          refine Or.inl ⟨.reason "Cannot call fallback function from the proxy admin", ?_⟩
          have refused : require (message.sender ≠ _admin storage)
              "Cannot call fallback function from the proxy admin" =
                .error (.reason "Cannot call fallback function from the proxy admin") :=
            if_neg (not_not.mpr admin)
          simp [_fallback, refused]
      | some function =>
          have only := reads function decoded
          cases function with
          | admin =>
              exact Or.inr ⟨encodeAddress (_admin storage), by simp [perform, ifAdmin, admin]⟩
          | implementation =>
              exact Or.inr ⟨encodeAddress (_implementation storage), by
                simp [perform, ifAdmin, admin]⟩
          | _ => cases only

end Calls

section Runs

/-- A proxy with its implementation, the storage that it began with, and the transactions. -/
structure Front where
  proxyAdmin : Address
  proxy : Address
  kind : Kind
  logic : Logic
  origin : Storage
  sent : List Transaction

variable {front : Front} {whole : State} {transaction : Transaction}

theorem standalone_slots {logic : Logic} {Legal' : Message → Storage → Prop} {origin : Storage}
    (keeps : logic.KeepsSlots) {config : Config Revert Storage Query Reply Message}
    (reach : Reach (standalone logic) Legal' origin config) :
    SameSlots origin config.now.state := by
  have step : ∀ message storage, Legal' message storage → SameSlots origin storage →
      (standalone logic message storage).Obeys (SameSlots origin) (fun _ _ => True)
        (fun storage' => SameSlots origin storage' ∧ True) := by
    intro message storage _ same
    refine Outcome.Obeys.bind ((keeps message storage).obeys same SameSlots.trans) ?_
    rintro value ⟨last, same', ended⟩
    exact ⟨same'.trans ended, trivial⟩
  exact reach.obeys (fun _ => trivial) (fun _ _ => trivial) step (.refl origin)

abbrev Alone (front : Front) (whole : State) : Prop :=
  InStep (proxyPart front.proxy) (standalone front.logic)
    (Delivered front.proxyAdmin front.proxy front.sent) front.origin whole

abbrev GoesOn (front : Front) (before after : State) : Prop :=
  Continues (proxyPart front.proxy) (standalone front.logic)
    (Delivered front.proxyAdmin front.proxy front.sent) front.origin before after

abbrev Carries (front : Front) (before after : State) : Prop := True ∧ GoesOn front before after

def Present (front : Front) (whole : State) : Prop :=
  whole.kinds front.proxy = some front.kind ∧ whole.taken front.proxy = true

/-- The proxy is there, and its storage is where a run of the implementation is. -/
abbrev Behind (front : Front) (whole : State) : Prop := Present front whole ∧ Alone front whole

abbrev Hidden (front : Front) (whole : State) (execution : Execution State State) : Prop :=
  execution.Obeys (Behind front) (Carries front)
    (fun later => Behind front later ∧ Carries front whole later)

theorem Behind.same (behind : Behind front whole) (later : State)
    (kinds : later.kinds front.proxy = whole.kinds front.proxy)
    (taken : later.taken front.proxy = whole.taken front.proxy)
    (same : later.storage front.proxy = whole.storage front.proxy) :
    Behind front later ∧ Carries front whole later := by
  have goesOn : GoesOn front whole later := .of_same same
  exact ⟨⟨⟨kinds.trans behind.1.1, taken.trans behind.1.2⟩, behind.2.continues goesOn⟩, trivial,
    goesOn⟩

theorem carries_refl (front : Front) (whole : State) : Carries front whole whole :=
  ⟨trivial, .refl whole⟩

theorem carries_trans {first middle last : State} (before : Carries front first middle)
    (after : Carries front middle last) : Carries front first last :=
  ⟨trivial, before.2.trans after.2⟩

theorem serve_hidden (query : Query) (whole : State) (behind : Behind front whole) :
    (serve query whole).Obeys (Behind front) (Carries front)
      (fun value => Behind front value.1 ∧ Carries front whole value.1) :=
  Outcome.Obeys.external behind

theorem Behind.slots (behind : Behind front whole) (keeps : front.logic.KeepsSlots) :
    SameSlots front.origin (whole.storage front.proxy) := by
  obtain ⟨config, reach, at_⟩ := behind.2
  have same := standalone_slots keeps reach
  rw [at_] at same
  exact same

theorem logic_hidden {message : Message} (behind : Behind front whole)
    (delivered : Delivered front.proxyAdmin front.proxy front.sent message
      (whole.storage front.proxy)) :
    Hidden front whole ((front.logic message (whole.storage front.proxy)).plug
      (proxyPart front.proxy) serve whole >>= fun value =>
        pure ((proxyPart front.proxy).put value.1 value.2.1)) := by
  have entered : ((standalone front.logic message (whole.storage front.proxy)).plug
      (proxyPart front.proxy) serve whole).Obeys (Behind front)
      (Carries front) (fun value =>
        Behind front ((proxyPart front.proxy).put value.1 value.2) ∧
          Carries front whole ((proxyPart front.proxy).put value.1 value.2)) :=
    Outcome.Obeys.enter_inStep (fun _ => trivial) (fun _ _ => trivial)
      (fun _ present => ⟨present, trivial⟩)
      (fun query whole present alone => serve_hidden query whole ⟨present, alone⟩)
      behind.1 behind.2 delivered
  have finished : Hidden front whole ((standalone front.logic message
      (whole.storage front.proxy)).plug (proxyPart front.proxy) serve whole >>= fun value =>
        pure ((proxyPart front.proxy).put value.1 value.2)) := Outcome.Obeys.bind_pure _ entered
  rw [standalone, Outcome.plug_bind, bind_assoc] at finished
  exact finished

theorem stranger_hidden {code : Code} {sender : Address} {value : Uint256} {data : Bytes}
    (keeps : front.logic.KeepsSlots) (claimed : _admin front.origin ≠ 0)
    (behind : Behind front whole)
    (found : code (_implementation (whole.storage front.proxy)) = some front.logic)
    (stranger : sender ≠ _admin (whole.storage front.proxy))
    (sends : ∃ transaction ∈ front.sent, Sends front.proxyAdmin front.proxy transaction
      ⟨sender, value, data⟩) :
    Hidden front whole (callProxy code sender value front.kind front.proxy data whole) := by
  have claimed' : _admin (whole.storage front.proxy) ≠ 0 := by
    rw [_admin, (behind.slots keeps).2]
    exact claimed
  obtain ⟨forwards, refuses⟩ :=
    @call_transparent code ⟨sender, value, data⟩ _ front.kind _ found stranger claimed'
  unfold callProxy
  by_cases passes : Passes front.kind ⟨sender, value, data⟩
  · rw [forwards passes]
    exact logic_hidden behind ⟨stranger, sends⟩
  · obtain ⟨reason, refused⟩ := refuses passes
    rw [refused]
    trivial

theorem other_hidden {code : Code} {sender : Address} {value : Uint256} {kind : Kind}
    {address : Address} {data : Bytes} (behind : Behind front whole)
    (other : address ≠ front.proxy) :
    Hidden front whole (callProxy code sender value kind address data whole) := by
  have kept : ∀ {whole : State} {storage : Storage}, Behind front whole →
      Behind front ((proxyPart address).put whole storage) ∧
        Carries front whole ((proxyPart address).put whole storage) :=
    fun behind => behind.same _ rfl rfl (Function.update_of_ne other.symm _ _)
  refine Outcome.Obeys.bind (Outcome.Obeys.plug (Behind front) (Carries front) carries_trans
    (fun behind _ => kept behind) serve_hidden behind (carries_refl front whole)
    (.trivial _ _)) ?_
  rintro ⟨later, storage, returndata⟩ ⟨behind', since, _⟩
  obtain ⟨behind'', since'⟩ := kept behind'
  exact ⟨behind'', carries_trans since since'⟩

theorem reads_hidden {code : Code} {sender : Address} {value : Uint256} {data : Bytes}
    (behind : Behind front whole) (admin : sender = _admin (whole.storage front.proxy))
    (reads : ∀ function, decode front.kind value data = .ok (some function) →
      function.reads = true) :
    Hidden front whole (callProxy code sender value front.kind front.proxy data whole) := by
  unfold callProxy
  rcases @call_admin code ⟨sender, value, data⟩ _ front.kind admin reads with
    ⟨reason, refused⟩ | ⟨returndata, answered⟩
  · rw [refused]
    trivial
  · rw [answered]
    exact behind.same _ rfl rfl (Function.update_self _ _ _)

theorem quiet_slots (behind : Behind front whole) :
    (control (fun _ => true) whole).slots front.proxy =
      some (slotsOf front.kind (whole.storage front.proxy)) :=
  control_slots rfl behind.1.1

theorem proxy_hidden {address : Address} {kind : Kind} {data : Bytes}
    (keeps : front.logic.KeepsSlots) (claimed : _admin front.origin ≠ 0)
    (quiet : Quiet front.proxyAdmin front.proxy front.logic transaction whole)
    (belongs : transaction ∈ front.sent) (behind : Behind front whole)
    (target : transaction.target = .proxy address data) (live : whole.kinds address = some kind) :
    Hidden front whole (callProxy transaction.code transaction.sender transaction.value kind
      address data whole) := by
  by_cases here : address = front.proxy
  · subst here
    cases live.symm.trans behind.1.1
    by_cases admin : transaction.sender = _admin (whole.storage front.proxy)
    · refine reads_hidden behind admin fun function decoded => ?_
      exact quiet.ruled _ function (quiet_slots behind) (.direct target decoded admin)
    · exact stranger_hidden keeps claimed behind quiet.code admin
        ⟨transaction, belongs, .direct target⟩
  · exact other_hidden behind here

theorem callOther_hidden {code : Code} {value : Uint256} {target : Address} {data : Bytes}
    (behind : Behind front whole) :
    Hidden front whole (callOther front.proxyAdmin code value target data whole) := by
  unfold callOther
  split
  · trivial
  · refine Outcome.Obeys.bind (serve_hidden _ _ behind) ?_
    rintro ⟨later, reply⟩ kept
    dsimp only
    split
    · exact kept
    · trivial

theorem ask_hidden {call : AdminCall} {asked : Function} {value : Uint256} {address : Address}
    {data : Bytes} (keeps : front.logic.KeepsSlots) (claimed : _admin front.origin ≠ 0)
    (quiet : Quiet front.proxyAdmin front.proxy front.logic transaction whole)
    (belongs : transaction ∈ front.sent) (behind : Behind front whole)
    (target : transaction.target = .proxyAdmin call) (asks : call.asks = some (address, asked))
    (owner : transaction.sender = whole._owner) (changes : asked.reads = false) :
    Hidden front whole (ask front.proxyAdmin transaction.code value address data whole) := by
  unfold ask
  cases live : whole.kinds address with
  | none => exact callOther_hidden behind
  | some kind =>
      by_cases here : address = front.proxy
      · subst here
        cases live.symm.trans behind.1.1
        refine stranger_hidden keeps claimed behind quiet.code ?_
          ⟨transaction, belongs, .through target asks⟩
        intro admin
        have reads := quiet.ruled _ asked (quiet_slots behind)
          (.through target asks owner admin.symm)
        rw [changes] at reads
        cases reads
      · exact other_hidden behind here

theorem administer_hidden {call : AdminCall} (keeps : front.logic.KeepsSlots)
    (claimed : _admin front.origin ≠ 0)
    (quiet : Quiet front.proxyAdmin front.proxy front.logic transaction whole)
    (belongs : transaction ∈ front.sent) (behind : Behind front whole)
    (target : transaction.target = .proxyAdmin call) :
    Hidden front whole (administer front.proxyAdmin transaction.code transaction.sender
      transaction.value whole call) := by
  cases call with
  | renounceOwnership =>
      refine Outcome.Obeys.lift_bind fun _ _ => Outcome.Obeys.lift_bind fun _ _ => ?_
      exact behind.same _ rfl rfl rfl
  | transferOwnership newOwner =>
      refine Outcome.Obeys.lift_bind fun _ _ => Outcome.Obeys.lift_bind fun _ _ => ?_
      exact Outcome.Obeys.lift_bind fun _ _ => behind.same _ rfl rfl rfl
  | changeProxyAdmin proxy newAdmin =>
      refine Outcome.Obeys.lift_bind fun _ _ => Outcome.Obeys.lift_bind fun _ owner => ?_
      rw [onlyOwner, require_eq_ok] at owner
      exact ask_hidden keeps claimed quiet belongs behind target rfl owner rfl
  | upgrade proxy implementation =>
      refine Outcome.Obeys.lift_bind fun _ _ => Outcome.Obeys.lift_bind fun _ owner => ?_
      rw [onlyOwner, require_eq_ok] at owner
      exact ask_hidden keeps claimed quiet belongs behind target rfl owner rfl
  | upgradeAndCall proxy implementation data =>
      refine Outcome.Obeys.lift_bind fun _ owner => ?_
      rw [onlyOwner, require_eq_ok] at owner
      exact ask_hidden keeps claimed quiet belongs behind target rfl owner rfl

theorem create_hidden {code : Code} {sender : Address} {value : Uint256} {address : Address}
    {creation : Creation} (behind : Behind front whole) :
    Hidden front whole (create code sender value address creation whole) := by
  unfold create
  split
  · trivial
  rename_i free
  have other : front.proxy ≠ address := by
    rintro rfl
    exact free behind.1.2
  obtain ⟨begun, since⟩ := behind.same (whole.begun address) rfl
    (Function.update_of_ne other _ _) rfl
  have steps : (Creation.construct code sender value (fun _ => 0) creation).Segments
      (fun _ _ => True → True) (fun _ _ => True → True) (fun _ => 0) :=
    (Outcome.Segments.trivial _ _).mono (fun _ _ => fun _ => id) (fun _ _ => fun _ => id)
  refine Outcome.Obeys.bind (Outcome.Obeys.aside (Behind front) (Carries front) carries_trans
    serve_hidden begun since steps trivial) ?_
  rintro ⟨later, storage⟩ ⟨behind', since', _⟩
  have created := behind'.same (later.created address creation.kind storage)
    (Function.update_of_ne other _ _) rfl (Function.update_of_ne other _ _)
  exact ⟨created.1, carries_trans since' created.2⟩

theorem entry_hidden (keeps : front.logic.KeepsSlots) (claimed : _admin front.origin ≠ 0)
    (quiet : Quiet front.proxyAdmin front.proxy front.logic transaction whole)
    (belongs : transaction ∈ front.sent) (behind : Behind front whole) :
    Hidden front whole (entry front.proxyAdmin transaction whole) := by
  unfold entry
  cases target : transaction.target with
  | create address creation => exact create_hidden behind
  | proxyAdmin call => exact administer_hidden keeps claimed quiet belongs behind target
  | proxy address data =>
      dsimp only
      cases live : whole.kinds address with
      | none => exact behind.same _ rfl rfl rfl
      | some kind => exact proxy_hidden keeps claimed quiet belongs behind target live

theorem Behind.forwards (behind : Behind front whole) (keeps : front.logic.KeepsSlots)
    (claimed : _admin front.origin ≠ 0) :
    Forwards front.proxyAdmin front.proxy front.kind front.logic whole := by
  intro transaction data quiet target stranger
  have claimed' : _admin (whole.storage front.proxy) ≠ 0 := by
    rw [_admin, (behind.slots keeps).2]
    exact claimed
  have entered : entry front.proxyAdmin transaction whole = callProxy transaction.code
      transaction.sender transaction.value front.kind front.proxy data whole := by
    unfold entry
    rw [target]
    simp only [behind.1.1, Option.elim_some]
  obtain ⟨forwards, refuses⟩ := @call_transparent transaction.code
    ⟨transaction.sender, transaction.value, data⟩ _ front.kind _ quiet.code stranger claimed'
  refine ⟨fun passes => ?_, fun stays => ?_⟩
  · rw [entered, callProxy, forwards passes]
    rfl
  · obtain ⟨reason, refused⟩ := refuses stays
    refine ⟨reason, ?_⟩
    rw [entered, callProxy, refused]
    rfl

/-- While nobody rules over a proxy, its storage is where a run of its implementation by itself
leads, with the messages that the transactions sent to the proxy, none of them from the admin; and
whoever else calls it next has the implementation run on that storage. -/
theorem proxy_transparent {proxyAdmin proxy : Address} {kind : Kind} {logic : Logic}
    {origin : State} {config : Config Revert State Query Reply Transaction}
    (keeps : logic.KeepsSlots) (live : origin.kinds proxy = some kind)
    (taken : origin.taken proxy = true) (claimed : _admin (origin.storage proxy) ≠ 0)
    (reach : Reach (entry proxyAdmin) (Quiet proxyAdmin proxy logic) origin config) :
    (∃ alone : Config Revert Storage Query Reply Message,
      Reach (standalone logic) (Delivered proxyAdmin proxy config.now.trace)
        (origin.storage proxy) alone ∧ alone.now.state = config.now.state.storage proxy) ∧
      SameSlots (origin.storage proxy) (config.now.state.storage proxy) ∧
      Forwards proxyAdmin proxy kind logic config.now.state := by
  have initial : Behind ⟨proxyAdmin, proxy, kind, logic, origin.storage proxy, config.now.trace⟩
      origin := ⟨⟨live, taken⟩, .start _, .start, rfl⟩
  have step : ∀ transaction whole,
      WithinTrace (Quiet proxyAdmin proxy logic) config.now.trace transaction whole →
      Behind ⟨proxyAdmin, proxy, kind, logic, origin.storage proxy, config.now.trace⟩ whole →
      Hidden ⟨proxyAdmin, proxy, kind, logic, origin.storage proxy, config.now.trace⟩ whole
        (entry proxyAdmin transaction whole) :=
    fun _ _ legal behind => entry_hidden keeps claimed legal.1 legal.2 behind
  have behind := reach.within.obeys (carries_refl _) carries_trans step initial
  exact ⟨behind.2, behind.slots keeps, behind.forwards keeps claimed⟩

theorem counterCode_quiet {sender : Address} {value : Uint256} {target : Target}
    (known : (control (fun _ => true) whole).slots 0x90 = some ⟨.startrailProxy, 0xad, 0x52⟩)
    (idle : ∀ function, ¬ Commands 0xad ⟨counterCode, sender, value, target⟩
      (control (fun _ => true) whole) 0x90 ⟨.startrailProxy, 0xad, 0x52⟩ function) :
    Quiet 0xad 0x90 counterLogic ⟨counterCode, sender, value, target⟩ whole := by
  refine ⟨?_, ?_⟩
  · simp only [control, if_true, Option.map_eq_some_iff, slotsOf, Slots.mk.injEq] at known
    obtain ⟨_, _, _, _, implementation⟩ := known
    rw [implementation]
    rfl
  · intro slots function found commands
    cases known.symm.trans found
    exact absurd commands (idle function)

theorem frozenRun_quiet :
    Reach (entry 0xad) (Quiet 0xad 0x90 counterLogic) upgradedRun.now.state frozenRun := by
  have called : Quiet 0xad 0x90 counterLogic ⟨counterCode, 0xe7e, 0, .proxy 0x90 [1, 2, 3, 4]⟩
      upgradedRun.now.state := by
    refine counterCode_quiet (by decide +kernel) fun function commands => ?_
    cases commands with
    | direct _ _ sender => exact absurd sender (by decide)
    | through target _ _ _ => cases target
  have asked : Quiet 0xad 0x90 counterLogic
      ⟨counterCode, 0xb0b, 0, .proxyAdmin (.upgrade 0x90 0x51)⟩ calledRun.now.state := by
    have owner : (control (fun _ => true) calledRun.now.state).owner = 0 := by decide +kernel
    refine counterCode_quiet (by decide +kernel) fun function commands => ?_
    cases commands with
    | direct target _ _ => cases target
    | through _ _ sender _ => exact absurd (sender.trans owner) (by decide)
  have first : Reach (entry 0xad) (Quiet 0xad 0x90 counterLogic) upgradedRun.now.state
      calledRun := by
    unfold calledRun
    generalize upgradedRun.now.state = origin at called
    exact .enter _ .start called
  exact first.enter _ asked

theorem frozenRun_transparent :
    (∃ alone : Config Revert Storage Query Reply Message,
      Reach (standalone counterLogic) (Delivered 0xad 0x90 frozenRun.now.trace)
        (upgradedRun.now.state.storage 0x90) alone ∧
          alone.now.state = frozenRun.now.state.storage 0x90) ∧
      SameSlots (upgradedRun.now.state.storage 0x90) (frozenRun.now.state.storage 0x90) ∧
      entry 0xad ⟨counterCode, 0xe7e, 0, .proxy 0x90 [1, 2, 3, 4]⟩ frozenRun.now.state =
        runLogic 0x90 counterLogic ⟨0xe7e, 0, [1, 2, 3, 4]⟩ frozenRun.now.state := by
  have live : upgradedRun.now.state.kinds 0x90 = some .startrailProxy := by decide +kernel
  obtain ⟨alone, slots, forwards⟩ := proxy_transparent counterLogic_keepsSlots live
    (by decide +kernel) (by decide +kernel) frozenRun_quiet
  refine ⟨alone, slots, (forwards _ [1, 2, 3, 4] ?_ rfl ?_).1 ⟨none, rfl, nofun⟩⟩
  · refine counterCode_quiet (by decide +kernel) fun function commands => ?_
    cases commands with
    | direct _ _ sender => exact absurd sender (by decide)
    | through target _ _ _ => cases target
  · decide +kernel

end Runs

end Startrail.Proxies
