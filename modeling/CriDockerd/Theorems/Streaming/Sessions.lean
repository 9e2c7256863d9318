import CriDockerd.Streaming.Server
import CriDockerd.Theorems.Streaming.Cache

/-! What a token is good for, over all orders of issuing, consuming and expiring: the last thing that has
    happened to the token of a cached request is that it was issued for it. So a session uses up its token,
    and until the token is issued again there is no other one. -/

namespace CriDockerd.Streaming
open Text

variable {s : Server} {cache : Cache} {history : List Event} {now : Nat} {token : Text} {req : Request}

def Request.endpoint : Request → Endpoint
  | .exec _ => .exec
  | .attach _ => .attach
  | .portForward _ => .portForward

def Request.session : Request → Session
  | .exec req => .exec req.containerId req.cmd ⟨req.stdin, req.stdout, req.stderr, req.tty⟩
  | .attach req => .attach req.containerId ⟨req.stdin, req.stdout, req.stderr, req.tty⟩
  | .portForward req => .portForward req.podSandboxId req.port

/-! ### What the cache knows of the history -/

/-- Every entry of the cache was made when its token was last heard of. -/
def Linked (cache : Cache) (now : Nat) (history : List Event) : Prop :=
  ∀ token e, cache.tokens token = some e → ∃ time, history.find? (·.token = token) = some (.issued token e.req time) ∧
    e.expireTime = time + cacheTTL ∧ time ≤ now

theorem Linked.mono (h : Linked cache now history) {cache' : Cache} {now' : Nat} (hnow : now ≤ now')
    (hsub : ∀ token e, cache'.tokens token = some e → cache.tokens token = some e) : Linked cache' now' history := by
  intro token e he
  obtain ⟨time, hlast, hexpire, htime⟩ := h token e (hsub token e he)
  exact ⟨time, hlast, hexpire, Nat.le_trans htime hnow⟩

/-- An event of one token leaves the others as they were, if the map has lost that token or knows it anew. -/
theorem Linked.cons (h : Linked cache now history) {cache' : Cache} {now' : Nat} (hnow : now ≤ now') {event : Event}
    (hother : ∀ token e, token ≠ event.token → cache'.tokens token = some e → cache.tokens token = some e)
    (hself : ∀ e, cache'.tokens event.token = some e → ∃ time, event = .issued event.token e.req time ∧
      e.expireTime = time + cacheTTL ∧ time ≤ now') : Linked cache' now' (event :: history) := by
  intro token e he
  by_cases htoken : token = event.token
  · subst htoken
    obtain ⟨time, hevent, hexpire, htime⟩ := hself e he
    refine ⟨time, ?_, hexpire, htime⟩
    refine (List.find?_cons_of_pos ?_).trans (congrArg some hevent)
    exact decide_eq_true rfl
  · obtain ⟨time, hlast, hexpire, htime⟩ := h token e (hother token e htoken he)
    refine ⟨time, ?_, hexpire, Nat.le_trans htime hnow⟩
    rw [List.find?_cons_of_neg (fun hc => htoken (of_decide_eq_true hc).symm)]
    exact hlast

theorem insert_tokens (env : InsertEnv) (req : Request) (cache : Cache) :
    (∃ err, (cache.insert req env.gcTime env.now env.draws).1 = .error err ∧
      ∀ token e, (cache.insert req env.gcTime env.now env.draws).2.tokens token = some e → cache.tokens token = some e) ∨
    ∃ token ele, (cache.insert req env.gcTime env.now env.draws).1 = .ok token ∧ ele.req = req ∧
      ele.expireTime = env.now + cacheTTL ∧ (cache.insert req env.gcTime env.now env.draws).2.tokens token = some ele ∧
      ∀ token' e, token' ≠ token → (cache.insert req env.gcTime env.now env.draws).2.tokens token' = some e →
        cache.tokens token' = some e := by
  have hgc : ∀ token e, (cache.gc env.gcTime).tokens token = some e → cache.tokens token = some e :=
    fun token e he => gc_tokens he
  rw [RequestCache.insert]
  split
  · exact Or.inl ⟨_, rfl, hgc⟩
  · split
    · exact Or.inl ⟨_, rfl, hgc⟩
    · rename_i token htoken
      refine Or.inr ⟨token, _, rfl, rfl, rfl, Function.update_self _ _ _, fun token' e hne he => hgc token' e ?_⟩
      exact (Function.update_of_ne hne _ _).symm.trans he

theorem consume_cases (token : Text) (now : Nat) (cache : Cache) :
    (∀ token' e, (cache.consume token now).2.tokens token' = some e → token' ≠ token ∧ cache.tokens token' = some e) ∧
      ∀ req, (cache.consume token now).1 = some req →
        ∃ e, cache.tokens token = some e ∧ e.req = req ∧ now ≤ e.expireTime := by
  rw [RequestCache.consume]
  split
  · rename_i hnone
    refine ⟨fun token' e he => ⟨?_, he⟩, fun req hreq => ?_⟩
    · rintro rfl
      rw [hnone] at he
      cases he
    · cases hreq
  · rename_i ele hele
    constructor
    · intro token' e he
      by_cases heq : token' = token
      · subst heq
        cases (Function.update_self token' _ cache.tokens).symm.trans he
      · exact ⟨heq, (Function.update_of_ne heq _ cache.tokens).symm.trans he⟩
    · intro req hreq
      dsimp only at hreq
      split at hreq
      · cases hreq
      · rename_i hlive
        cases hreq
        exact ⟨ele, hele, rfl, Nat.le_of_not_lt hlive⟩

/-! ### What the history says of sessions -/

/-- A session stands for the last issuance of its token: nothing has happened to the token since, it was issued
    for this request and this endpoint, and not too long ago. -/
def Admitted (endpoint : Endpoint) (token : Text) (session : Session) (time : Nat) (earlier : List Event) : Prop :=
  ∃ since before req issuedAt, earlier = since ++ .issued token req issuedAt :: before ∧ (∀ e ∈ since, e.token ≠ token) ∧
    req.endpoint = endpoint ∧ req.session = session ∧ issuedAt ≤ time ∧ time ≤ issuedAt + cacheTTL

/-- All sessions of a history are admitted. -/
def AllAdmitted (history : List Event) : Prop :=
  ∀ later earlier endpoint token session time, history = later ++ .session endpoint token session time :: earlier →
    Admitted endpoint token session time earlier

theorem AllAdmitted.issued (h : AllAdmitted history) (token : Text) (req : Request) (time : Nat) :
    AllAdmitted (.issued token req time :: history) := by
  intro later earlier endpoint token' session time' heq
  cases later with
  | nil => cases heq
  | cons event later =>
    cases heq
    exact h later earlier endpoint token' session time' rfl

theorem AllAdmitted.session (h : AllAdmitted history) {endpoint : Endpoint} {session : Session} {time : Nat}
    (hnew : Admitted endpoint token session time history) : AllAdmitted (.session endpoint token session time :: history) := by
  intro later earlier endpoint' token' session' time' heq
  cases later with
  | nil =>
    cases heq
    exact hnew
  | cons event later =>
    cases heq
    exact h later earlier endpoint' token' session' time' rfl

theorem Linked.admits (h : Linked cache now history) {time : Nat} (hnow : now ≤ time)
    (hreq : (cache.consume token time).1 = some req) : Admitted req.endpoint token req.session time history := by
  obtain ⟨e, he, rfl, hlive⟩ := (consume_cases token time cache).2 req hreq
  obtain ⟨issuedAt, hlast, hexpire, htime⟩ := h token e he
  obtain ⟨-, since, before, hsplit, hsince⟩ := List.find?_eq_some_iff_append.mp hlast
  refine ⟨since, before, e.req, issuedAt, hsplit, fun event hevent htoken => ?_, rfl, rfl, Nat.le_trans htime hnow, hexpire ▸ hlive⟩
  have hother := hsince event hevent
  rw [decide_eq_true htoken] at hother
  cases hother

/-! ### Calls -/

/-- The invariant of a server. -/
structure Accounted (s : Server) : Prop where
  linked : Linked s.cache s.now s.history
  admitted : AllAdmitted s.history

def Call.InOrder (s : Server) : Call → Prop
  | .getExec _ env => s.now ≤ env.gcTime ∧ env.gcTime ≤ env.now
  | .getAttach _ env => s.now ≤ env.gcTime ∧ env.gcTime ≤ env.now
  | .getPortForward _ env => s.now ≤ env.gcTime ∧ env.gcTime ≤ env.now
  | .serve _ _ now => s.now ≤ now

theorem Accounted.issue (h : Accounted s) {env : InsertEnv} (hnow : s.now ≤ env.now) (method : Text)
    {result : Except GoError (Text × Text) × Cache}
    (hresult : (∃ err, result = (.error err, s.cache)) ∨ result = answer method req env s.cache) :
    Accounted (s.issue req env result) := by
  rcases hresult with ⟨err, rfl⟩ | rfl
  · exact ⟨h.linked.mono hnow fun _ _ he => he, h.admitted⟩
  · have hinsert := insert_tokens env req s.cache
    rw [Server.issue, answer]
    generalize s.cache.insert req env.gcTime env.now env.draws = inserted at hinsert
    obtain ⟨outcome, cache'⟩ := inserted
    rcases hinsert with ⟨err, rfl, hsub⟩ | ⟨token, ele, rfl, hreq, hexpire, hmapped, hother⟩
    · exact ⟨h.linked.mono hnow hsub, h.admitted⟩
    · refine ⟨h.linked.cons hnow hother fun e he => ?_, h.admitted.issued token req env.now⟩
      have hele : ele = e := Option.some.inj (hmapped.symm.trans he)
      subst hele
      exact ⟨env.now, by rw [hreq]; rfl, hexpire, Nat.le_refl _⟩

theorem Accounted.serve (h : Accounted s) {endpoint : Endpoint} {time : Nat} (hnow : s.now ≤ time)
    {result : Option Session × Cache} (hcache : result.2 = (s.cache.consume token time).2)
    (hsession : ∀ session, result.1 = some session →
      ∃ req, (s.cache.consume token time).1 = some req ∧ req.endpoint = endpoint ∧ req.session = session) :
    Accounted (s.serve endpoint token time result) := by
  obtain ⟨outcome, cache'⟩ := result
  have htaken := (consume_cases token time s.cache).1
  rw [← hcache] at htaken
  cases outcome with
  | none => exact ⟨h.linked.mono hnow fun token' e he => (htaken token' e he).2, h.admitted⟩
  | some session =>
    obtain ⟨req, hreq, rfl, rfl⟩ := hsession session rfl
    refine ⟨h.linked.cons hnow (fun token' e _ he => (htaken token' e he).2) fun e he => ?_,
      h.admitted.session (h.linked.admits hnow hreq)⟩
    exact absurd rfl (htaken token e he).1

theorem serveExec_cases (token : Text) (now : Nat) (cache : Cache) :
    (serveExec token now cache).2 = (cache.consume token now).2 ∧ ∀ session, (serveExec token now cache).1 = some session →
      ∃ req, (cache.consume token now).1 = some req ∧ req.endpoint = .exec ∧ req.session = session := by
  rw [serveExec]
  rcases cache.consume token now with ⟨_ | req | req | req, cache'⟩
  · exact ⟨rfl, fun _ h => nomatch h⟩
  · exact ⟨rfl, fun session h => ⟨.exec req, rfl, rfl, Option.some.inj h⟩⟩
  · exact ⟨rfl, fun _ h => nomatch h⟩
  · exact ⟨rfl, fun _ h => nomatch h⟩

theorem serveAttach_cases (token : Text) (now : Nat) (cache : Cache) :
    (serveAttach token now cache).2 = (cache.consume token now).2 ∧ ∀ session, (serveAttach token now cache).1 = some session →
      ∃ req, (cache.consume token now).1 = some req ∧ req.endpoint = .attach ∧ req.session = session := by
  rw [serveAttach]
  rcases cache.consume token now with ⟨_ | req | req | req, cache'⟩
  · exact ⟨rfl, fun _ h => nomatch h⟩
  · exact ⟨rfl, fun _ h => nomatch h⟩
  · exact ⟨rfl, fun session h => ⟨.attach req, rfl, rfl, Option.some.inj h⟩⟩
  · exact ⟨rfl, fun _ h => nomatch h⟩

theorem servePortForward_cases (token : Text) (now : Nat) (cache : Cache) :
    (servePortForward token now cache).2 = (cache.consume token now).2 ∧
      ∀ session, (servePortForward token now cache).1 = some session →
        ∃ req, (cache.consume token now).1 = some req ∧ req.endpoint = .portForward ∧ req.session = session := by
  rw [servePortForward]
  rcases cache.consume token now with ⟨_ | req | req | req, cache'⟩
  · exact ⟨rfl, fun _ h => nomatch h⟩
  · exact ⟨rfl, fun _ h => nomatch h⟩
  · exact ⟨rfl, fun _ h => nomatch h⟩
  · exact ⟨rfl, fun session h => ⟨.portForward req, rfl, rfl, Option.some.inj h⟩⟩

theorem Call.accounted {call : Call} (h : Accounted s) (horder : call.InOrder s) : Accounted (call.run s) := by
  cases call with
  | getExec req env =>
    refine h.issue (Nat.le_trans horder.1 horder.2) "exec" ?_
    rw [Streaming.getExec]
    split
    · exact Or.inl ⟨_, rfl⟩
    · exact Or.inr rfl
  | getAttach req env =>
    refine h.issue (Nat.le_trans horder.1 horder.2) "attach" ?_
    rw [Streaming.getAttach]
    split
    · exact Or.inl ⟨_, rfl⟩
    · exact Or.inr rfl
  | getPortForward req env =>
    refine h.issue (Nat.le_trans horder.1 horder.2) "portforward" ?_
    rw [Streaming.getPortForward]
    split
    · exact Or.inl ⟨_, rfl⟩
    · exact Or.inr rfl
  | serve endpoint token now =>
    cases endpoint with
    | exec =>
      obtain ⟨hcache, hsession⟩ := serveExec_cases token now s.cache
      exact h.serve horder hcache hsession
    | attach =>
      obtain ⟨hcache, hsession⟩ := serveAttach_cases token now s.cache
      exact h.serve horder hcache hsession
    | portForward =>
      obtain ⟨hcache, hsession⟩ := servePortForward_cases token now s.cache
      exact h.serve horder hcache hsession

/-! ### Runs -/

/-- In every run of the server each session stands for the last issuance of its token, on the endpoint and with
    the request that the token was issued for, and within its time; and between two sessions with one token
    the token has been issued again. -/
theorem sessions_of_issued_tokens {s : Server}
    (hr : Reachable (fun s => s.cache = newRequestCache ∧ s.history = []) Call.InOrder Call.run s) :
    AllAdmitted s.history ∧
      ∀ later between earlier token endpoint session time endpoint' session' time',
        s.history = later ++ .session endpoint token session time :: between ++ .session endpoint' token session' time' :: earlier →
          ∃ req issuedAt, .issued token req issuedAt ∈ between := by
  have h : Accounted s := by
    refine Reachable.invariant Accounted ?_ (fun s call hs horder => Call.accounted hs horder) hr
    rintro s ⟨hcache, hhistory⟩
    constructor
    · rw [hcache]
      exact fun token e he => nomatch he
    · rw [hhistory]
      intro later earlier endpoint token session time heq
      exact absurd heq.symm (List.append_ne_nil_of_right_ne_nil _ (List.cons_ne_nil _ _))
  refine ⟨h.admitted, fun later between earlier token endpoint session time endpoint' session' time' heq => ?_⟩
  rw [List.append_assoc, List.cons_append] at heq
  obtain ⟨since, before, req, issuedAt, hsplit, hsince, -⟩ := h.admitted _ _ _ _ _ _ heq
  -- The older session is an event of the token, so it is older than the issuance.
  refine ⟨req, issuedAt, ?_⟩
  rcases List.append_eq_append_iff.mp hsplit with ⟨rest, rfl, hrest⟩ | ⟨rest, rfl, hrest⟩
  · cases rest with
    | nil => cases hrest
    | cons event rest =>
      cases hrest
      exact absurd rfl (hsince _ (List.mem_append_right _ List.mem_cons_self))
  · cases rest with
    | nil => cases hrest
    | cons event rest =>
      cases hrest
      exact List.mem_append_right _ List.mem_cons_self

def lsRequest : ExecRequest :=
  { containerId := "c1", cmd := ["ls"], tty := false, stdin := false, stdout := true, stderr := false }

/-- The request is answered, and its token comes to the exec endpoint. -/
def lsServer : Server :=
  (Call.serve .exec "AAAAAAAA" 5).run ((Call.getExec lsRequest ⟨0, 0, zeroDraws⟩).run ⟨newRequestCache, 0, []⟩)

theorem sessions_of_issued_tokens_ls :
    lsServer.history = [.session .exec "AAAAAAAA" (.exec "c1" ["ls"] ⟨false, true, false, false⟩) 5,
        .issued "AAAAAAAA" (.exec lsRequest) 0] ∧
      AllAdmitted lsServer.history := by
  have hhistory : lsServer.history =
      [.session .exec "AAAAAAAA" (.exec "c1" ["ls"] ⟨false, true, false, false⟩) 5,
        .issued "AAAAAAAA" (.exec lsRequest) 0] := by
    decide +kernel
  have hr : Reachable (fun s => s.cache = newRequestCache ∧ s.history = []) Call.InOrder Call.run lsServer :=
    .call (.call (.start ⟨rfl, rfl⟩) (And.intro (Nat.le_refl _) (Nat.le_refl _))) (Nat.zero_le 5)
  exact ⟨hhistory, (sessions_of_issued_tokens hr).1⟩

end CriDockerd.Streaming
