import RegionGateway.Gateway.Serve
import RegionGateway.Proofs.Output.Routing

/-!
# Which handler answers

A path is made of the name of a method alone, a handler is named by a module and the method in snake case.
In a request whose methods have different names in each service, and whose services have different names:

* a route is told by its service and its method (`nodup_declared`), its handler by the file and the name
  of the function (`nodup_targets_iff`);
* the first method of a name answers for all methods of that name (`served_iff_no_earlier`).

So paths and handlers are different for different routes only where no two services have methods of one name
and no two methods of a file become one function: `routes_told_apart`.
-/

namespace RegionGateway

namespace Route

/-- The function that the dispatcher calls for a route. -/
def target (route : Route) : String := traitPath (route.module, Rust.ident route.method)

/-- The dispatcher calls the target of a route for its path. -/
theorem arm_eq (route : Route) : RouteTable.arm route =
    ("\"" ++ route.path ++ "\"",
      .await (callOn route.target ["backend", "enforcer", "rc", "body", "sink"])) := by
  simp only [RouteTable.arm, target, traitPath]

/-- Different routes have different paths and call different functions. -/
def Unambiguous (routes : List Route) : Prop :=
  routes.Pairwise fun a b => a.path ≠ b.path ∧ a.target ≠ b.target

theorem path_inj {a b : Route} : a.path = b.path ↔ a.method = b.method := by
  simp [path]

/-- The handler of a route, given how routes are served. -/
def handler {σ : Type} (serve : Route → RegionContext → Bytes → Attempt σ GatewayError Unit)
    (route : Route) : RouteHandler σ := ⟨route.method, serve route⟩

end Route

namespace Request

/-- Methods are told by their names in a service, and services in the generated files. -/
structure NamesDistinct (request : Request) : Prop where
  methods : ∀ file ∈ request.generatedFiles, ∀ service ∈ file.services,
    (service.methods.map (·.name)).Nodup
  services : ((request.generatedFiles.flatMap (·.services)).map (·.name)).Nodup

variable {request : Request}

/-- A gateway method is told by its service and its name. -/
theorem nodup_declared (hnames : request.NamesDistinct) :
    ((Route.ofRequest request).map fun route => (route.service, route.method)).Nodup := by
  have hflat : (Route.ofRequest request).map (fun route => (route.service, route.method)) =
      (request.generatedFiles.flatMap (·.services)).flatMap fun service =>
        service.gatewayMethods.map fun method => (service.name, method.name) := by
    simp [Route.ofRequest, gatewayMethods, FileDecl.gatewayMethods, List.map_flatMap,
      List.flatMap_assoc, Function.comp_def]
  rw [hflat, List.nodup_flatMap]
  constructor
  · intro service hservice
    obtain ⟨file, hfile, hservice⟩ := List.mem_flatMap.mp hservice
    have hmethods : (service.gatewayMethods.map (·.name)).Nodup :=
      (hnames.methods file hfile service hservice).sublist (List.filter_sublist.map _)
    exact List.Nodup.of_map Prod.snd (by simpa [Function.comp_def] using hmethods)
  · refine (List.pairwise_map.mp hnames.services).imp fun {service other} hother => ?_
    intro pair hpair hpair'
    obtain ⟨_, -, rfl⟩ := List.mem_map.mp hpair
    obtain ⟨_, -, hsame⟩ := List.mem_map.mp hpair'
    exact hother (congrArg Prod.fst hsame).symm

/-- Methods of one name are in different services. -/
theorem service_ne_of_method_eq (hnames : request.NamesDistinct) :
    (Route.ofRequest request).Pairwise fun a b => a.method = b.method → a.service ≠ b.service := by
  refine (List.pairwise_map.mp (nodup_declared hnames)).imp fun hpair hmethod hservice => ?_
  exact hpair (Prod.ext hservice hmethod)

/-- Functions are told apart in their file, as files are by their modules. -/
theorem nodup_targets_iff {count : Nat} (haccepted : request.validate = .ok count) :
    ((Route.ofRequest request).map Route.target).Nodup ↔
      ∀ file ∈ request.gatewayFiles,
        (file.gatewayMethods.map fun declared => Rust.ident declared.2.name).Nodup := by
  have hflat : (Route.ofRequest request).map Route.target =
      request.gatewayFiles.flatMap fun file => file.gatewayMethods.map fun declared =>
        traitPath (file.moduleName, Rust.ident declared.2.name) := by
    rw [gatewayFiles, flatMap_filter]
    · simp [Route.ofRequest, gatewayMethods, Route.target, List.map_flatMap, Function.comp_def]
    · intro file hnone
      rw [FileDecl.gatewayMethods_of_none hnone, List.map_nil]
  have hfiles : request.gatewayFiles.Pairwise fun file other => file.moduleName ≠ other.moduleName :=
    List.pairwise_map.mp (validate_modules haccepted)
  rw [hflat, List.nodup_flatMap]
  constructor
  · rintro ⟨htargets, -⟩ file hfile
    refine List.Nodup.of_map (fun function => traitPath (file.moduleName, function)) ?_
    simpa [Function.comp_def] using htargets file hfile
  · refine fun hfunctions => ⟨fun file hfile => ?_, hfiles.imp fun {file other} hmodule => ?_⟩
    · have hinj : Function.Injective fun function => traitPath (file.moduleName, function) :=
        fun function function' hsame => (traitPath_inj hsame).2
      simpa [Function.comp_def] using (hfunctions file hfile).map hinj
    · intro target htarget htarget'
      obtain ⟨_, -, rfl⟩ := List.mem_map.mp htarget
      obtain ⟨_, -, hsame⟩ := List.mem_map.mp htarget'
      exact hmodule (traitPath_inj hsame).1.symm

end Request

namespace Route

variable {σ : Type} {serve : Route → RegionContext → Bytes → Attempt σ GatewayError Unit}

/-- The first route of a path answers. -/
theorem dispatch_append (serve : Route → RegionContext → Bytes → Attempt σ GatewayError Unit)
    {before : List Route} (route : Route) (rest : List Route)
    (hbefore : ∀ earlier ∈ before, earlier.method ≠ route.method) :
    dispatch ((before ++ route :: rest).map (handler serve)) route.path = serve route := by
  have hfind : ((before ++ route :: rest).map (handler serve)).find?
      (fun candidate => routePrefix ++ candidate.method == route.path) = some (handler serve route) := by
    refine List.find?_eq_some_iff_append.mpr ⟨by simp [handler, path], before.map (handler serve),
      rest.map (handler serve), by simp, ?_⟩
    simpa [handler, path] using hbefore
  funext caller body
  rw [dispatch, hfind]
  rfl

/-- Serves one route and refuses all others. -/
def serveOnly (route : Route) : Route → RegionContext → Bytes → Attempt Unit GatewayError Unit :=
  fun candidate _ _ => if candidate = route then pure () else throw .forbidden

/-- A route is served by its own handler, whatever that does, if no route before it has its method. -/
theorem served_iff_no_earlier {before rest : List Route} {route : Route} (hnew : route ∉ before) :
    (∀ (σ : Type) (serve : Route → RegionContext → Bytes → Attempt σ GatewayError Unit),
        dispatch ((before ++ route :: rest).map (handler serve)) route.path = serve route) ↔
      ∀ earlier ∈ before, earlier.method ≠ route.method := by
  refine ⟨fun hserved earlier hearlier hmethod => ?_, fun hbefore _ serve =>
    dispatch_append serve route rest hbefore⟩
  -- the first route of the path answers, which is not this one
  obtain ⟨first, hfirst, htaken⟩ : ∃ first, before.find? (·.method == route.method) = some first ∧
      first.method = route.method := by
    cases hfind : before.find? (·.method == route.method) with
    | none => exact absurd hmethod (by simpa using List.find?_eq_none.mp hfind earlier hearlier)
    | some first => exact ⟨first, rfl, by simpa using List.find?_some hfind⟩
  obtain ⟨-, start, between, rfl, hstart⟩ := List.find?_eq_some_iff_append.mp hfirst
  have hanswers := dispatch_append (serveOnly route) first (between ++ route :: rest)
    (by simpa [htaken] using hstart)
  have hroute := hserved Unit (serveOnly route)
  rw [path_inj.mpr htaken] at hanswers
  rw [List.append_assoc, List.cons_append, hanswers] at hroute
  have hother : first ≠ route := fun h => hnew (h ▸ by simp)
  have hresult := congrFun (congrFun hroute ⟨"", "", false⟩) []
  rw [serveOnly, serveOnly, if_neg hother, if_pos rfl] at hresult
  exact absurd (congrArg Prod.fst (congrFun hresult ())) (by rintro ⟨⟩)

/-- How the routes of a request are told apart. -/
structure ToldApart (request : Request) : Prop where
  /-- The dispatcher compares the path of a request with the paths of the routes, one after the other, and calls
  the target of the first that is the same. -/
  arms : (RouteTable.dispatcher (ofRequest request)).body = [.value (.choice (.place "path")
    ((ofRequest request).map (fun route => ("\"" ++ route.path ++ "\"",
      .await (callOn route.target ["backend", "enforcer", "rc", "body", "sink"]))) ++ [unroutedArm]))]
  /-- Routes of one path are those of methods of one name, in different services. -/
  path : (ofRequest request).Pairwise fun a b =>
    a.path = b.path → a.method = b.method ∧ a.service ≠ b.service
  /-- Paths and handlers of different routes are different if and only if no two services have methods of
  one name, and no two gateway methods of a file become one function. -/
  unambiguous : Unambiguous (ofRequest request) ↔
    ((ofRequest request).Pairwise fun a b => a.service ≠ b.service → a.method ≠ b.method) ∧
      ∀ file ∈ request.gatewayFiles,
        (file.gatewayMethods.map fun declared => Rust.ident declared.2.name).Nodup
  /-- The requests of a route are served by its handler if and only if no route before it, of another
  service, has a method of that name. -/
  served : ∀ before route rest, ofRequest request = before ++ route :: rest →
    ((∀ (σ : Type) (serve : Route → RegionContext → Bytes → Attempt σ GatewayError Unit),
        dispatch ((ofRequest request).map (handler serve)) route.path = serve route) ↔
      ∀ earlier ∈ before, earlier.service ≠ route.service → earlier.method ≠ route.method)

/-- **When a request reaches the handler of its method.** In a request that is accepted, whose methods have
different names in their service and whose services have different names, paths and handlers are
different for different routes exactly if no two services have methods of one name and no two methods of a
file become one function; of methods of one name, the first answers for all. -/
theorem routes_told_apart {request : Request} {count : Nat} (haccepted : request.validate = .ok count)
    (hnames : request.NamesDistinct) : ToldApart request := by
  have hservices := Request.service_ne_of_method_eq hnames
  have hmethods : ((ofRequest request).Pairwise fun a b => a.path ≠ b.path) ↔
      (ofRequest request).Pairwise fun a b => a.service ≠ b.service → a.method ≠ b.method := by
    constructor
    · exact List.Pairwise.imp fun hpath _ hmethod => hpath (path_inj.mpr hmethod)
    · intro hpairs
      refine (hpairs.and hservices).imp fun hpair hpath => ?_
      have hmethod := path_inj.mp hpath
      exact hpair.1 (hpair.2 hmethod) hmethod
  refine ⟨?_, ?_, ?_, fun before route rest hsplit => ?_⟩
  · simp only [← arm_eq]
    rfl
  · exact hservices.imp fun hpair hpath => ⟨path_inj.mp hpath, hpair (path_inj.mp hpath)⟩
  · rw [Unambiguous, List.pairwise_and_iff, hmethods, ← List.pairwise_map (f := target) (R := (· ≠ ·))]
    exact and_congr_right fun _ => Request.nodup_targets_iff haccepted
  · have hbefore : ∀ earlier ∈ before, earlier.method = route.method →
        earlier.service ≠ route.service := by
      rw [hsplit, List.pairwise_append] at hservices
      exact fun earlier hearlier => hservices.2.2 earlier hearlier route List.mem_cons_self
    have hnew : route ∉ before := fun hmem => hbefore route hmem rfl rfl
    rw [hsplit, served_iff_no_earlier hnew]
    refine forall₂_congr fun earlier hearlier => ?_
    exact ⟨fun h _ => h, fun h hmethod => h (hbefore earlier hearlier hmethod) hmethod⟩

/-- A service with one method, which shows something. -/
def showingService (name directive : String) : ServiceDecl :=
  ⟨name, [⟨"ShowState", "State", "State", false, false, some directive, none, none⟩]⟩

/-- Two services that show their states, one to everybody and one to managers. -/
def twins : Request where
  files := [⟨"status.proto", [showingService "StatusApi" "status,ActionView,skipenforce"], []⟩,
    ⟨"secret.proto", [showingService "SecretApi" "secret,ActionManage,"], []⟩]
  filesToGenerate := []
  parameter := none

theorem namesDistinct_twins : twins.NamesDistinct := ⟨by decide, by decide⟩

/-- The route of a service that shows something. -/
def showingRoute (module service : String) : Route := ⟨module, service, "ShowState", "State", false, none⟩

/-- Services may have methods of one name: the requests of the second are served by the handler of the first,
without the authorization that the second declares. -/
theorem ambiguous_twins : twins.validate = .ok 2 ∧ twins.NamesDistinct ∧
    ofRequest twins = [showingRoute "status" "StatusApi", showingRoute "secret" "SecretApi"] ∧
    ¬ Unambiguous (ofRequest twins) ∧
    ∀ (σ : Type) (serve : Route → RegionContext → Bytes → Attempt σ GatewayError Unit),
      dispatch ((ofRequest twins).map (handler serve)) (showingRoute "secret" "SecretApi").path =
        serve (showingRoute "status" "StatusApi") := by
  have hroutes : ofRequest twins =
      [showingRoute "status" "StatusApi", showingRoute "secret" "SecretApi"] := by decide +kernel
  refine ⟨by decide +kernel, namesDistinct_twins, hroutes, ?_, fun σ serve => ?_⟩
  · rw [hroutes]
    intro hpairs
    exact (List.pairwise_cons.mp hpairs).1 _ List.mem_cons_self |>.1 rfl
  · rw [hroutes]
    exact dispatch_append serve (showingRoute "status" "StatusApi") [showingRoute "secret" "SecretApi"]
      (List.forall_mem_nil _)

theorem routes_told_apart_twins :
    twins.validate = .ok 2 ∧ twins.NamesDistinct ∧ ToldApart twins := by
  have haccepted : twins.validate = .ok 2 := by decide +kernel
  exact ⟨haccepted, namesDistinct_twins, routes_told_apart haccepted namesDistinct_twins⟩

end Route

end RegionGateway
