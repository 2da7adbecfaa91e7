import SynchroSonic.Discovery.Advertisement

/-!
# The discovery service

`MdnsDiscoveryService`, as far as it advertises the own device. The daemon is the list of calls it has
been given; what it answers is up to the outside world (`Mdns`), and may depend on the calls before.

`sync_receiver_advertisement` compares what it is asked for with what it has, eight fields in all, and
refreshes the advertisement if one differs. A refresh that succeeds forgets the last error, which is one
of the eight: with an error to report, the next call finds a difference again
(`resync_noop_iff`).
-/

namespace SynchroSonic

/-- A call of the mDNS daemon, with what is asked for. -/
inductive DaemonCall (I : Type)
  | browse (serviceType : String)
  | register (info : I)
  | unregister (fullname : String)
  | stopBrowse (serviceType : String)
  | shutdown
  deriving DecidableEq, Repr

/-- mDNS, with service descriptions of type `I`. -/
structure Mdns (I : Type) where
  /-- `ServiceDaemon::new`. -/
  newDaemon : Except String Unit
  /-- `ServiceInfo::new`, of the service type, the instance name, the host name, the port and the TXT
  pairs. -/
  serviceInfo : String → String → String → UInt16 → List (String × String) → Except String I
  /-- `ServiceInfo::get_fullname`. -/
  fullname : I → String
  /-- The daemon's answer to a call, after these others. -/
  answer : List (DaemonCall I) → DaemonCall I → Except String Unit

/-- `LocalDiscoveryStatus`. -/
structure LocalDiscoveryStatus where
  deviceId : DeviceId
  deviceName : String
  browseActive : Bool
  advertised : Bool
  receiverStatus : DeviceStatus
  capabilities : DeviceCapabilities
  availability : DeviceAvailability
  advertisedEndpoint : Option TransportEndpoint
  lastAdvertisedUnixMs : Option ℕ
  lastError : Option String
  deriving DecidableEq, Repr

/-- `MdnsDiscoveryService`. -/
structure MdnsDiscoveryService (I : Type) where
  config : DiscoveryConfig
  profile : LocalDiscoveryProfile
  /-- The running daemon, with the calls it has been given, oldest first. -/
  daemon : Option (List (DaemonCall I)) := none
  advertisedFullname : Option String := none
  localStatus : LocalDiscoveryStatus
  deriving DecidableEq, Repr

/-- The arguments of `sync_receiver_advertisement`. -/
structure AdvertisementRequest where
  receiverRunning : Bool
  listenerActive : Bool
  bindAddr : Option SocketAddr
  busy : Bool
  lastError : Option String
  deriving DecidableEq, Repr

namespace AdvertisementRequest

/-- The listener accepts connections at a known address. -/
def listening (request : AdvertisementRequest) : Bool :=
  request.listenerActive && request.bindAddr.isSome

def receiverStatus (request : AdvertisementRequest) : DeviceStatus :=
  if request.listening then .receiverListening
  else if request.receiverRunning then .receiverStarting
  else .unavailable

def capabilities (request : AdvertisementRequest) : DeviceCapabilities :=
  if request.listening then .senderReceiver else .sender

def availability (request : AdvertisementRequest) : DeviceAvailability :=
  if request.listening then if request.busy then .busy else .available else .unavailable

def endpoint (addresses : LocalAddresses) (deviceId : DeviceId) (request : AdvertisementRequest) :
    Option TransportEndpoint :=
  request.bindAddr.bind fun bindAddr ↦
    (localAdvertisedSocketAddr addresses bindAddr).map fun address ↦ ⟨deviceId, address⟩

/-- The port, if the request does not say this one is kept. -/
def port (kept : UInt16) (request : AdvertisementRequest) : UInt16 :=
  (request.bindAddr.map SocketAddr.port).getD kept

end AdvertisementRequest

namespace MdnsDiscoveryService

variable {I : Type}

/-- `MdnsDiscoveryService::with_profile`. -/
def withProfile (config : DiscoveryConfig) (profile : LocalDiscoveryProfile) :
    MdnsDiscoveryService I where
  config
  profile
  localStatus :=
    { deviceId := profile.deviceId
      deviceName := profile.deviceName
      browseActive := false
      advertised := false
      receiverStatus := .unavailable
      capabilities := profile.capabilities
      availability := profile.availability
      advertisedEndpoint := none
      lastAdvertisedUnixMs := none
      lastError := none }

def buildServiceInfo (mdns : Mdns I) (service : MdnsDiscoveryService I) : Except DiscoveryError I :=
  let hostname := sanitizedDnsLabel service.profile.deviceName ++ ".local."
  (mdns.serviceInfo service.config.serviceType service.profile.deviceName hostname
    service.profile.port (txtProperties service.profile)).mapError .serviceInfo

/-- The running daemon has been given one more call. -/
def called (calls : List (DaemonCall I)) (call : DaemonCall I) (service : MdnsDiscoveryService I) :
    MdnsDiscoveryService I :=
  { service with daemon := some (calls ++ [call]) }

/-- Take the own service back, if it is out; whether the daemon agrees does not matter. -/
def withdraw (calls : List (DaemonCall I)) (service : MdnsDiscoveryService I) :
    List (DaemonCall I) × MdnsDiscoveryService I :=
  match service.advertisedFullname with
  | some fullname =>
    (calls ++ [.unregister fullname],
      { service.called calls (.unregister fullname) with
        advertisedFullname := none
        localStatus := { service.localStatus with advertised := false } })
  | none => (calls, service)

def refreshLocalAdvertisement (mdns : Mdns I) (nowUnixMs : ℕ) (service : MdnsDiscoveryService I) :
    Except DiscoveryError Unit × MdnsDiscoveryService I :=
  match service.daemon with
  | none => (.ok (), service)
  | some calls =>
    -- the old registration goes first, so a failure below leaves nothing advertised
    let (calls, service) := service.withdraw calls
    match service.buildServiceInfo mdns with
    | .error error => (.error error, service)
    | .ok info =>
      let service := service.called calls (.register info)
      match mdns.answer calls (.register info) with
      | .error error => (.error (.register error), service)
      | .ok () => (.ok (), { service with
          advertisedFullname := some (mdns.fullname info)
          localStatus := { service.localStatus with
            advertised := true
            lastAdvertisedUnixMs := some nowUnixMs
            lastError := none } })

/-- One of the eight fields is not as asked for. -/
def differs (addresses : LocalAddresses) (request : AdvertisementRequest)
    (service : MdnsDiscoveryService I) : Bool :=
  service.localStatus.receiverStatus != request.receiverStatus
    || service.localStatus.capabilities != request.capabilities
    || service.localStatus.availability != request.availability
    || service.localStatus.advertisedEndpoint != request.endpoint addresses service.profile.deviceId
    || service.localStatus.lastError != request.lastError
    || service.profile.capabilities != request.capabilities
    || service.profile.availability != request.availability
    || service.profile.port != request.port service.profile.port

/-- Write the eight fields. -/
def adopt (addresses : LocalAddresses) (request : AdvertisementRequest)
    (service : MdnsDiscoveryService I) : MdnsDiscoveryService I :=
  { service with
    localStatus := { service.localStatus with
      receiverStatus := request.receiverStatus
      capabilities := request.capabilities
      availability := request.availability
      advertisedEndpoint := request.endpoint addresses service.profile.deviceId
      lastError := request.lastError }
    profile := { service.profile with
      capabilities := request.capabilities
      availability := request.availability
      port := request.port service.profile.port } }

/-- The error of a refresh that failed is the last one. -/
def fail (error : DiscoveryError) (service : MdnsDiscoveryService I) : MdnsDiscoveryService I :=
  { service with localStatus := { service.localStatus with lastError := some error.display } }

def syncReceiverAdvertisement (mdns : Mdns I) (addresses : LocalAddresses) (nowUnixMs : ℕ)
    (request : AdvertisementRequest) (service : MdnsDiscoveryService I) :
    Except DiscoveryError Bool × MdnsDiscoveryService I :=
  let changed := service.differs addresses request
  let service := service.adopt addresses request
  if !changed then (.ok false, service)
  else
    match service.refreshLocalAdvertisement mdns nowUnixMs with
    | (.error error, service) => (.error error, service.fail error)
    | (.ok (), service) => (.ok true, service)

def stop (mdns : Mdns I) (service : MdnsDiscoveryService I) :
    Except DiscoveryError Unit × MdnsDiscoveryService I :=
  match service.daemon with
  | none => (.ok (), service)
  | some calls =>
    let (calls, service) := service.withdraw calls
    let calls := calls ++ [.stopBrowse service.config.serviceType]
    -- the daemon is taken out in any case, the browsing flag falls only when it has shut down
    let service := { service with daemon := none }
    match mdns.answer calls .shutdown with
    | .error error => (.error (.stop error), service)
    | .ok () => (.ok (), { service with
        localStatus := { service.localStatus with browseActive := false } })

def start (mdns : Mdns I) (nowUnixMs : ℕ) (service : MdnsDiscoveryService I) :
    Except DiscoveryError Unit × MdnsDiscoveryService I :=
  if !service.config.enabled then (.ok (), service)
  else if service.daemon.isSome then (.ok (), service)
  else
    match mdns.newDaemon with
    | .error error => (.error (.daemon error), service)
    | .ok () =>
      match mdns.answer [] (.browse service.config.serviceType) with
      -- the new daemon is dropped: the service has not stored it yet
      | .error error => (.error (.browse error), service)
      | .ok () =>
        let service := { service with
          daemon := some [.browse service.config.serviceType]
          localStatus := { service.localStatus with browseActive := true } }
        match service.refreshLocalAdvertisement mdns nowUnixMs with
        | (.error error, service) => (.error error, (service.stop mdns).2)
        | (.ok (), service) => (.ok (), service)

/-! ### What is out and what is said to be out -/

section Lifecycle

variable {service : MdnsDiscoveryService I} {calls : List (DaemonCall I)}

/-- The own service is out exactly when the status says so, and only a running daemon has it. -/
structure Consistent (service : MdnsDiscoveryService I) : Prop where
  advertised : service.localStatus.advertised = service.advertisedFullname.isSome
  running : service.advertisedFullname.isSome → service.daemon.isSome

/-- Nothing is out. -/
structure Withdrawn (service : MdnsDiscoveryService I) : Prop where
  advertised : service.localStatus.advertised = false
  fullname : service.advertisedFullname = none

theorem Withdrawn.consistent (h : service.Withdrawn) : service.Consistent where
  advertised := by rw [h.advertised, h.fullname, Option.isSome_none]
  running hout := by
    rw [h.fullname] at hout
    exact absurd hout Bool.false_ne_true

theorem Consistent.withdrawn_withdraw (h : service.Consistent) (calls : List (DaemonCall I)) :
    (service.withdraw calls).2.Withdrawn := by
  rw [withdraw]
  rcases hfullname : service.advertisedFullname with - | fullname
  · refine ⟨h.advertised.trans ?_, hfullname⟩
    rw [hfullname, Option.isSome_none]
  · exact ⟨rfl, rfl⟩

theorem withProfile_withdrawn (config : DiscoveryConfig) (profile : LocalDiscoveryProfile) :
    (withProfile config profile : MdnsDiscoveryService I).Withdrawn := ⟨rfl, rfl⟩

theorem Consistent.refresh (h : service.Consistent) (mdns : Mdns I) (nowUnixMs : ℕ) :
    (service.refreshLocalAdvertisement mdns nowUnixMs).2.Consistent := by
  rcases hdaemon : service.daemon with - | calls
  · simpa only [refreshLocalAdvertisement, hdaemon] using h
  · have hout := h.withdrawn_withdraw calls
    simp only [refreshLocalAdvertisement, hdaemon]
    split
    · exact hout.consistent
    · split
      · exact Withdrawn.consistent ⟨hout.advertised, hout.fullname⟩
      · exact ⟨rfl, fun _ ↦ rfl⟩

theorem Consistent.sync (h : service.Consistent) (mdns : Mdns I) (addresses : LocalAddresses)
    (nowUnixMs : ℕ) (request : AdvertisementRequest) :
    (service.syncReceiverAdvertisement mdns addresses nowUnixMs request).2.Consistent := by
  have hadopt : (service.adopt addresses request).Consistent := ⟨h.advertised, h.running⟩
  have hrefresh := hadopt.refresh mdns nowUnixMs
  rw [syncReceiverAdvertisement]
  split
  · exact hadopt
  · split
    next error next hnext =>
      rw [hnext] at hrefresh
      exact ⟨hrefresh.advertised, hrefresh.running⟩
    next next hnext =>
      rw [hnext] at hrefresh
      exact hrefresh

theorem Consistent.stop (h : service.Consistent) (mdns : Mdns I) :
    (service.stop mdns).2.Consistent := by
  rcases hdaemon : service.daemon with - | calls
  · simpa only [MdnsDiscoveryService.stop, hdaemon] using h
  · have hout := h.withdrawn_withdraw calls
    simp only [MdnsDiscoveryService.stop, hdaemon]
    split
    · exact Withdrawn.consistent ⟨hout.advertised, hout.fullname⟩
    · exact Withdrawn.consistent ⟨hout.advertised, hout.fullname⟩

theorem Consistent.start (h : service.Consistent) (mdns : Mdns I) (nowUnixMs : ℕ) :
    (service.start mdns nowUnixMs).2.Consistent := by
  rw [MdnsDiscoveryService.start]
  split
  · exact h
  split
  · exact h
  split
  · exact h
  split
  · exact h
  have hbrowsing : ({ service with
      daemon := some [.browse service.config.serviceType]
      localStatus := { service.localStatus with browseActive := true } } :
        MdnsDiscoveryService I).Consistent := ⟨h.advertised, fun _ ↦ rfl⟩
  have hrefresh := hbrowsing.refresh mdns nowUnixMs
  dsimp only
  split
  next error next hnext =>
    rw [hnext] at hrefresh
    exact hrefresh.stop mdns
  next next hnext =>
    rw [hnext] at hrefresh
    exact hrefresh

end Lifecycle

/-- A call of the service, with what the outside world has to say to it. -/
inductive Call (I : Type)
  | start (mdns : Mdns I) (nowUnixMs : ℕ)
  | stop (mdns : Mdns I)
  | syncReceiverAdvertisement (mdns : Mdns I) (addresses : LocalAddresses) (nowUnixMs : ℕ)
      (request : AdvertisementRequest)

/-- The service after the call. -/
def after (service : MdnsDiscoveryService I) : Call I → MdnsDiscoveryService I
  | .start mdns nowUnixMs => (service.start mdns nowUnixMs).2
  | .stop mdns => (service.stop mdns).2
  | .syncReceiverAdvertisement mdns addresses nowUnixMs request =>
    (service.syncReceiverAdvertisement mdns addresses nowUnixMs request).2

/-- **Through starts, stops and synchronisations, whatever mDNS answers**, the status tells whether the
own service is out. -/
theorem consistent_of_calls (config : DiscoveryConfig) (profile : LocalDiscoveryProfile)
    (calls : List (Call I)) : (calls.foldl after (withProfile config profile)).Consistent := by
  have hfrom (service : MdnsDiscoveryService I) (h : service.Consistent) :
      (calls.foldl after service).Consistent := by
    induction calls generalizing service with
    | nil => exact h
    | cons call calls ih =>
      refine ih _ ?_
      cases call with
      | start mdns nowUnixMs => exact h.start mdns nowUnixMs
      | stop mdns => exact h.stop mdns
      | syncReceiverAdvertisement mdns addresses nowUnixMs request =>
        exact h.sync mdns addresses nowUnixMs request
  exact hfrom _ (withProfile_withdrawn config profile).consistent

/-! ### What a refresh leaves alone -/

section Refresh

variable {mdns : Mdns I} {addresses : LocalAddresses} {request : AdvertisementRequest}
  {service : MdnsDiscoveryService I} {calls : List (DaemonCall I)}

/-- All of the eight fields but the last error are as asked for. -/
structure Adopted (addresses : LocalAddresses) (request : AdvertisementRequest)
    (service : MdnsDiscoveryService I) : Prop where
  receiverStatus : service.localStatus.receiverStatus = request.receiverStatus
  capabilities : service.localStatus.capabilities = request.capabilities
  availability : service.localStatus.availability = request.availability
  endpoint : service.localStatus.advertisedEndpoint =
    request.endpoint addresses service.profile.deviceId
  profileCapabilities : service.profile.capabilities = request.capabilities
  profileAvailability : service.profile.availability = request.availability
  port : service.profile.port = request.port service.profile.port

theorem port_port (kept : UInt16) (request : AdvertisementRequest) :
    request.port (request.port kept) = request.port kept := by
  rw [AdvertisementRequest.port, AdvertisementRequest.port]
  cases request.bindAddr with
  | none => rfl
  | some bindAddr => rfl

theorem adopted_adopt (addresses : LocalAddresses) (request : AdvertisementRequest)
    (service : MdnsDiscoveryService I) : (service.adopt addresses request).Adopted addresses request :=
  ⟨rfl, rfl, rfl, rfl, rfl, rfl, (port_port service.profile.port request).symm⟩

theorem differs_eq_false_iff : service.differs addresses request = false ↔
    service.Adopted addresses request ∧ service.localStatus.lastError = request.lastError := by
  simp only [differs, Bool.or_eq_false_iff, bne_eq_false_iff_eq]
  constructor
  · rintro ⟨⟨⟨⟨⟨⟨⟨hstatus, hcapabilities⟩, havailability⟩, hendpoint⟩, herror⟩, hprofile⟩, hprofile'⟩,
      hport⟩
    exact ⟨⟨hstatus, hcapabilities, havailability, hendpoint, hprofile, hprofile', hport⟩, herror⟩
  · rintro ⟨⟨hstatus, hcapabilities, havailability, hendpoint, hprofile, hprofile', hport⟩, herror⟩
    exact ⟨⟨⟨⟨⟨⟨⟨hstatus, hcapabilities⟩, havailability⟩, hendpoint⟩, herror⟩, hprofile⟩, hprofile'⟩,
      hport⟩

/-- Adopting what is there changes nothing. -/
theorem adopt_eq_self (h : service.Adopted addresses request)
    (herror : service.localStatus.lastError = request.lastError) :
    service.adopt addresses request = service := by
  have hstatus : (service.adopt addresses request).localStatus = service.localStatus := by
    rw [adopt, ← h.receiverStatus, ← h.capabilities, ← h.availability, ← h.endpoint, ← herror]
  have hprofile : (service.adopt addresses request).profile = service.profile := by
    rw [adopt, ← h.profileCapabilities, ← h.profileAvailability, ← h.port]
  exact congrArg₂ (fun localStatus profile ↦ { service with localStatus, profile }) hstatus hprofile

/-- The service differs from the other one in its last error and in what the daemon has been told. -/
structure Retold (service other : MdnsDiscoveryService I) : Prop where
  config : other.config = service.config
  profile : other.profile = service.profile
  running : service.daemon.isSome → other.daemon.isSome
  receiverStatus : other.localStatus.receiverStatus = service.localStatus.receiverStatus
  capabilities : other.localStatus.capabilities = service.localStatus.capabilities
  availability : other.localStatus.availability = service.localStatus.availability
  endpoint : other.localStatus.advertisedEndpoint = service.localStatus.advertisedEndpoint

theorem Retold.refl (service : MdnsDiscoveryService I) : service.Retold service :=
  ⟨rfl, rfl, id, rfl, rfl, rfl, rfl⟩

theorem Retold.adopted {other : MdnsDiscoveryService I} (h : service.Retold other)
    (hadopted : service.Adopted addresses request) : other.Adopted addresses request where
  receiverStatus := h.receiverStatus.trans hadopted.receiverStatus
  capabilities := h.capabilities.trans hadopted.capabilities
  availability := h.availability.trans hadopted.availability
  endpoint := by rw [h.endpoint, h.profile, hadopted.endpoint]
  profileCapabilities := by rw [h.profile, hadopted.profileCapabilities]
  profileAvailability := by rw [h.profile, hadopted.profileAvailability]
  port := by rw [h.profile, ← hadopted.port]

theorem Retold.buildServiceInfo {other : MdnsDiscoveryService I} (h : service.Retold other) :
    other.buildServiceInfo mdns = service.buildServiceInfo mdns := by
  rw [MdnsDiscoveryService.buildServiceInfo, MdnsDiscoveryService.buildServiceInfo, h.config, h.profile]

theorem retold_withdraw (service : MdnsDiscoveryService I) (calls : List (DaemonCall I)) :
    service.Retold (service.withdraw calls).2 := by
  rw [withdraw]
  cases service.advertisedFullname with
  | none => exact Retold.refl service
  | some fullname => exact ⟨rfl, rfl, fun _ ↦ rfl, rfl, rfl, rfl, rfl⟩

/-- The text of the error with which the service description is refused. -/
def serviceInfoError (mdns : Mdns I) (service : MdnsDiscoveryService I) : Option String :=
  match service.buildServiceInfo mdns with
  | .error error => some error.display
  | .ok _ => none

/-- **A refresh with a daemon that registers**: it fails if the service description is refused, and
otherwise forgets the last error. -/
theorem refreshLocalAdvertisement_cases (mdns : Mdns I) (nowUnixMs : ℕ)
    (hdaemon : service.daemon = some calls)
    (hregister : ∀ calls info, mdns.answer calls (.register info) = .ok ()) :
    (∃ error next, service.refreshLocalAdvertisement mdns nowUnixMs = (.error error, next) ∧
        service.Retold next ∧ service.serviceInfoError mdns = some error.display) ∨
      ∃ next, service.refreshLocalAdvertisement mdns nowUnixMs = (.ok (), next) ∧
        service.Retold next ∧ service.serviceInfoError mdns = none ∧
          next.localStatus.lastError = none := by
  have hretold := retold_withdraw service calls
  have hbuilt : (service.withdraw calls).2.buildServiceInfo mdns = service.buildServiceInfo mdns :=
    hretold.buildServiceInfo
  simp only [refreshLocalAdvertisement, hdaemon, hbuilt, serviceInfoError, hregister]
  cases service.buildServiceInfo mdns with
  | error error => exact Or.inl ⟨error, _, rfl, hretold, rfl⟩
  | ok info =>
    obtain ⟨hconfig, hprofile, -, hstatus, hcapabilities, havailability, hendpoint⟩ := hretold
    exact Or.inr ⟨_, rfl, ⟨hconfig, hprofile, fun _ ↦ rfl, hstatus, hcapabilities, havailability,
      hendpoint⟩, rfl, rfl⟩

/-- Without a difference nothing happens. -/
theorem syncReceiverAdvertisement_of_same (nowUnixMs : ℕ) (h : service.Adopted addresses request)
    (herror : service.localStatus.lastError = request.lastError) :
    service.syncReceiverAdvertisement mdns addresses nowUnixMs request = (.ok false, service) := by
  have hsame := differs_eq_false_iff.2 ⟨h, herror⟩
  simp only [syncReceiverAdvertisement, hsame, Bool.not_false, if_true, adopt_eq_self h herror]

/-- With one the advertisement is refreshed, and the service is as asked for but for the last error,
which is that of the refresh. -/
theorem syncReceiverAdvertisement_of_differs (nowUnixMs : ℕ) (hdaemon : service.daemon = some calls)
    (hregister : ∀ calls info, mdns.answer calls (.register info) = .ok ())
    (hdiffers : service.differs addresses request = true) :
    (service.syncReceiverAdvertisement mdns addresses nowUnixMs request).1 ≠ .ok false ∧
      (service.syncReceiverAdvertisement mdns addresses nowUnixMs request).2.Adopted addresses
        request ∧
      (service.syncReceiverAdvertisement mdns addresses nowUnixMs request).2.daemon.isSome ∧
      (service.syncReceiverAdvertisement mdns addresses nowUnixMs request).2.localStatus.lastError =
        (service.adopt addresses request).serviceInfoError mdns := by
  have hadopted := adopted_adopt addresses request service
  have hrunning : (service.adopt addresses request).daemon = some calls := hdaemon
  simp only [syncReceiverAdvertisement, hdiffers, Bool.not_true, Bool.false_eq_true, if_false]
  rcases refreshLocalAdvertisement_cases mdns nowUnixMs hrunning hregister with
    ⟨error, next, hrefresh, hretold, hbuild⟩ | ⟨next, hrefresh, hretold, hbuild, herror⟩
  · have hnext := hretold.adopted hadopted
    have hdaemon' := hretold.running (hrunning ▸ rfl)
    rw [hrefresh, hbuild]
    refine ⟨fun h ↦ ?_, ?_, hdaemon', rfl⟩
    · cases h
    · exact ⟨hnext.1, hnext.2, hnext.3, hnext.4, hnext.5, hnext.6, hnext.7⟩
  · rw [hrefresh, hbuild]
    refine ⟨fun h ↦ ?_, hretold.adopted hadopted, hretold.running (hrunning ▸ rfl), herror⟩
    exact Bool.false_ne_true (Except.ok.inj h).symm

/-- **Synchronising an unchanged advertisement again** does nothing exactly if there was nothing to do
the first time, or the error to report is the one the refresh left behind: none, or the reason why the
service description was refused. -/
theorem resync_noop_iff (mdns : Mdns I) (addresses : LocalAddresses) (nowUnixMs laterUnixMs : ℕ)
    (request : AdvertisementRequest) (service : MdnsDiscoveryService I) (calls : List (DaemonCall I))
    (hdaemon : service.daemon = some calls)
    (hregister : ∀ calls info, mdns.answer calls (.register info) = .ok ()) :
    let once := (service.syncReceiverAdvertisement mdns addresses nowUnixMs request).2
    let again := once.syncReceiverAdvertisement mdns addresses laterUnixMs request
    (again.1 = .ok false ∧ again.2.daemon = once.daemon ∧ again.2.localStatus = once.localStatus ∧
        again.2.profile = once.profile) ↔
      service.differs addresses request = false ∨
        request.lastError = (service.adopt addresses request).serviceInfoError mdns := by
  dsimp only
  cases hdiffers : service.differs addresses request with
  | false =>
    obtain ⟨hadopted, herror⟩ := differs_eq_false_iff.1 hdiffers
    rw [syncReceiverAdvertisement_of_same nowUnixMs hadopted herror,
      syncReceiverAdvertisement_of_same laterUnixMs hadopted herror]
    exact iff_of_true ⟨rfl, rfl, rfl, rfl⟩ (Or.inl rfl)
  | true =>
    obtain ⟨-, hadopted, hrunning, hleft⟩ :=
      syncReceiverAdvertisement_of_differs nowUnixMs hdaemon hregister hdiffers
    obtain ⟨calls', hcalls'⟩ := Option.isSome_iff_exists.1 hrunning
    rw [or_iff_right Bool.false_ne_true.symm, ← hleft]
    constructor
    · rintro ⟨hagain, -⟩
      -- had there been a difference, the second call would have refreshed again
      by_contra herror
      have hdiffers' : differs addresses request
          (service.syncReceiverAdvertisement mdns addresses nowUnixMs request).2 = true := by
        refine Bool.eq_true_of_not_eq_false fun hsame ↦ herror ?_
        exact (differs_eq_false_iff.1 hsame).2.symm
      exact (syncReceiverAdvertisement_of_differs laterUnixMs hcalls' hregister hdiffers').1 hagain
    · intro herror
      rw [syncReceiverAdvertisement_of_same laterUnixMs hadopted herror.symm]
      exact ⟨rfl, rfl, rfl, rfl⟩

end Refresh

end MdnsDiscoveryService

namespace Sample

/-- A daemon that accepts everything, and service descriptions that are full names. -/
def mdns : Mdns String where
  newDaemon := .ok ()
  serviceInfo serviceType instanceName _ _ _ := .ok (instanceName ++ "." ++ serviceType)
  fullname := id
  answer _ _ := .ok ()

/-- A machine with one address. -/
def localAddresses : LocalAddresses where
  socketFor _ := some (.v4 0xc0a8087f)
  hostname := none

/-- A service that has just been started. -/
def service : MdnsDiscoveryService String :=
  ((MdnsDiscoveryService.withProfile {} ⟨⟨"device-1"⟩, "Laptop", "0.1.10", .sender, .unavailable,
    51700⟩).start mdns 1).2

/-- The receiver listens on all addresses, and the transport has this to say. -/
def listeningWith (lastError : Option String) : AdvertisementRequest :=
  ⟨true, true, some ⟨.v4 0, 51700⟩, false, lastError⟩

end Sample

namespace MdnsDiscoveryService

/-- Without an error to report the second call does nothing. -/
theorem resync_noop_listening :
    let once := (Sample.service.syncReceiverAdvertisement Sample.mdns Sample.localAddresses 2
      (Sample.listeningWith none)).2
    let again := once.syncReceiverAdvertisement Sample.mdns Sample.localAddresses 3
      (Sample.listeningWith none)
    again.1 = .ok false ∧ again.2.daemon = once.daemon ∧ again.2.localStatus = once.localStatus ∧
      again.2.profile = once.profile :=
  (resync_noop_iff Sample.mdns Sample.localAddresses 2 3 (Sample.listeningWith none) Sample.service _
    rfl fun _ _ ↦ rfl).2 (Or.inr rfl)

/-- With one it registers the same service once more. -/
theorem resync_not_noop :
    ¬∀ (mdns : Mdns String) (addresses : LocalAddresses) (nowUnixMs laterUnixMs : ℕ)
      (request : AdvertisementRequest) (service : MdnsDiscoveryService String)
      (calls : List (DaemonCall String)), service.daemon = some calls →
      (∀ calls call, mdns.answer calls call = .ok ()) →
        let once := (service.syncReceiverAdvertisement mdns addresses nowUnixMs request).2
        let again := once.syncReceiverAdvertisement mdns addresses laterUnixMs request
        again.1 = .ok false ∧ again.2.daemon = once.daemon ∧ again.2.localStatus = once.localStatus ∧
          again.2.profile = once.profile := by
  intro hall
  obtain ⟨hagain, -⟩ := hall Sample.mdns Sample.localAddresses 2 3
    (Sample.listeningWith (some "transport I/O failed while reading a frame: timed out"))
    Sample.service _ rfl fun _ _ ↦ rfl
  have htold : (((Sample.service.syncReceiverAdvertisement Sample.mdns Sample.localAddresses 2
      (Sample.listeningWith (some "transport I/O failed while reading a frame: timed out"))).2
        ).syncReceiverAdvertisement Sample.mdns Sample.localAddresses 3
          (Sample.listeningWith (some "transport I/O failed while reading a frame: timed out"))).1 =
      .ok true := rfl
  rw [htold] at hagain
  exact Bool.false_ne_true (Except.ok.inj hagain).symm

end MdnsDiscoveryService

end SynchroSonic
