import SignOn.Proofs.Deployment.Connections
import SignOn.Proofs.Deployment.Dependence

/-!
# Clients that share a deployment

Several clients visit one deployment in turns. As long as each keeps to what was issued to it, none
of them notices the others: every answer, and every call of the backend, is the same as in a run of
its own visits alone, with the random values that these visits bring. In between sessions are swept,
and logins of the same user overwrite each other's connection; what each client's own sessions and
contexts come to does not depend on that.
-/

namespace SignOn

/-- The state in which a site starts: without sessions and connections. -/
def SharedState.initial (window timeToLive start : Int) : SharedState where
  sessions := .create window start
  connections := { timeToLive }

namespace Deployment

open Session (follow given)
open SharedState (initial)

variable {ι : Type}

/-- The visits of one client. -/
def visitsOf [DecidableEq ι] (client : ι) (history : List (ι × Visit)) : List Visit :=
  (history.filter (·.1 = client)).map Prod.snd

/-- The exchanges of clients that visit in turns, each with the client whose exchange it is. -/
def shared (d : Deployment) (state : SharedState) (history : List (ι × Visit)) :
    List (ι × Exchange) :=
  (history.map Prod.fst).zip (d.transcript state (history.map Prod.snd))

/-- Whether a client was issued a key for a context. -/
def IssuedTo (d : Deployment) (exchanges : List (ι × Exchange)) (client : ι) (key : String)
    (context : SecurityContext) : Prop :=
  ∃ e, (client, e) ∈ exchanges ∧ d.Issues e key context

/-- Whether a visit of a client presents nothing that was issued to others. -/
structure KeepsTo (d : Deployment) (before : List (ι × Exchange)) (client : ι) (v : Visit) :
    Prop where
  /-- Whoever was issued a key that is presented is this client; keys that nobody was issued do no
  harm. -/
  keys : d.gate.storageMethod = .session → ∀ key, v.Presents key → ∀ other context,
    d.IssuedTo before other key context → other = client
  /-- Whatever opens was sealed for this client. -/
  contexts : d.gate.storageMethod = .cookie → ∀ context,
    Storage.loadCookie d.site.cipher v.request.headers = .ok (some context) →
    ∃ key, d.IssuedTo before client key context

/-- Whether every client keeps to what was issued to it. -/
def KeepsApart (d : Deployment) (exchanges : List (ι × Exchange)) : Prop :=
  ∀ before client e since, exchanges = before ++ (client, e) :: since →
    d.KeepsTo before client e.visit

/-- Whether the others make no difference to a client: in the shared run it sees, visit by visit,
what it would see in a run of its own. -/
def AsIfAlone [DecidableEq ι] (d : Deployment) (state : SharedState) (history : List (ι × Visit))
    (client : ι) : Prop :=
  ((d.shared state history).filter (·.1 = client)).map (·.2.seen) =
    (d.transcript state (visitsOf client history)).map Exchange.seen

section Runs

variable (d : Deployment) (state : SharedState)

/-- The last visit of a history is served in the state after all others. -/
theorem transcript_concat (history : List Visit) (v : Visit) :
    d.transcript state (history ++ [v]) =
      d.transcript state history ++ [⟨v, d.serve v (d.after state history)⟩] := by
  induction history generalizing state with
  | nil => rfl
  | cons w history ih =>
    rw [List.cons_append, transcript, transcript, after, ih]
    rfl

private theorem length_transcript (history : List Visit) :
    (d.transcript state history).length = history.length := by
  have hvisits := congrArg List.length (d.map_visit_transcript state history)
  rwa [List.length_map] at hvisits

/-- The exchanges of all clients together are those of the deployment. -/
theorem map_snd_shared (history : List (ι × Visit)) :
    (d.shared state history).map Prod.snd = d.transcript state (history.map Prod.snd) := by
  rw [shared, List.map_snd_zip]
  simp [length_transcript]

/-- The last visit of clients that share a deployment is served in the state after all others. -/
theorem shared_concat (history : List (ι × Visit)) (client : ι) (v : Visit) :
    d.shared state (history ++ [(client, v)]) =
      d.shared state history ++
        [(client, ⟨v, d.serve v (d.after state (history.map Prod.snd))⟩)] := by
  rw [shared, List.map_append, List.map_append, List.map_singleton, List.map_singleton,
    transcript_concat, List.zip_append (by simp [length_transcript])]
  rfl

/-- The visits of clients that share a deployment are those of the history. -/
theorem map_visit_shared (history : List (ι × Visit)) :
    (d.shared state history).map (fun x => (x.1, x.2.visit)) = history := by
  induction history using List.reverseRecOn with
  | nil => rfl
  | append_singleton history x ih => rw [shared_concat, List.map_append, ih, List.map_singleton]

end Runs

/-- An exchange is seen with its time, and with its turn for every key. -/
theorem turn_eq_of_seen_eq (d : Deployment) (key : String) {e e' : Exchange}
    (h : e.seen = e'.seen) :
    e.visit.time = e'.visit.time ∧ d.turn key e = d.turn key e' := by
  obtain ⟨hvisit, hseen⟩ := Prod.mk.inj h
  have hresponse := (Prod.mk.inj hseen).1
  unfold turn
  rw [hvisit, hresponse]
  exact ⟨rfl, rfl⟩

variable {d : Deployment} {state : SharedState} {history : List (ι × Visit)} {client : ι}
  {exchanges : List (ι × Exchange)} {v : Visit} {key : String} {context : SecurityContext}
  {backend : IdentityBackend}

/-- What is saved in a history with one backend was granted by it. -/
theorem grants_of_mem_transcript {past : List Visit}
    (hsame : ∀ w ∈ past, w.occasion.backend = backend) {e : Exchange}
    (hmem : e ∈ d.transcript state past) (hsaves : d.saves? e.visit = some context) :
    d.Grants backend context := by
  rw [← hsame e.visit (visit_mem_of_mem_transcript hmem)]
  exact grants_of_saves? hsaves

/-- What is issued in a history with one backend was granted by it. -/
theorem grants_of_issuedTo (hsame : ∀ w ∈ history.map Prod.snd, w.occasion.backend = backend)
    (h : d.IssuedTo (d.shared state history) client key context) : d.Grants backend context := by
  obtain ⟨e, hmem, hissues⟩ := h
  exact grants_of_mem_transcript hsame (List.of_mem_zip hmem).2 hissues.1

/-- Clients that keep apart have done so all the time. -/
theorem KeepsApart.left_of_append {since : List (ι × Exchange)}
    (h : d.KeepsApart (exchanges ++ since)) : d.KeepsApart exchanges := by
  intro before client e rest hsplit
  exact h before client e (rest ++ since) (by rw [hsplit]; simp)

/-- What a visit finds after a history under the key that it presents. -/
theorem lookUp_after {window timeToLive start : Int} {past : List Visit}
    (hgate : d.gate.storageMethod = .session)
    (hmethod : d.logout.storageMethod = d.gate.storageMethod) (hkey : key ≠ "")
    (hp : Storage.presentedKey? v.request.headers = some key)
    (hclock : (start :: (past.map Visit.time ++ [v.time])).IsChain (· ≤ ·)) :
    (Gate.lookUp d.gate d.site v.occasion v.request
        (d.after (initial window timeToLive start) past)).1 =
      .ok (given window v.time (follow window (·.visit.time) (d.turn key) none
        (d.transcript (initial window timeToLive start) past))) := by
  have htracks := tracks_after hgate hkey (initial window timeToLive start) past
    (fun _ _ _ _ => hmethod.trans hgate) hclock (SessionStore.tracks_create window start key)
  have hload := Storage.load_of_presented (s := d.site.storage d.gate.storageMethod) hgate htracks
    hp
  rw [window_after] at hload
  exact hload

/-- What a visit finds was granted, if the client keeps to what it was issued. -/
theorem grants_of_lookUp {window start timeToLive : Int}
    (hmethod : d.logout.storageMethod = d.gate.storageMethod)
    (hsame : ∀ w ∈ history.map Prod.snd, w.occasion.backend = backend)
    (hclock : (start :: ((history.map Prod.snd).map Visit.time ++ [v.time])).IsChain (· ≤ ·))
    (hkeeps : d.KeepsTo (d.shared (initial window timeToLive start) history) client v)
    (hl : (Gate.lookUp d.gate d.site v.occasion v.request
      (d.after (initial window timeToLive start) (history.map Prod.snd))).1 =
        .ok (some context)) : d.Grants backend context := by
  cases hgate : d.gate.storageMethod with
  | cookie =>
    have hcookie : Storage.loadCookie d.site.cipher v.request.headers = .ok (some context) := by
      simpa only [Gate.lookUp, Storage.load, Site.storage, hgate] using hl
    obtain ⟨key, hissued⟩ := hkeeps.contexts hgate context hcookie
    exact grants_of_issuedTo hsame hissued
  | session =>
    cases hp : Storage.presentedKey? v.request.headers with
    | none =>
      rw [Gate.lookUp, Storage.load_of_not_presented hgate hp] at hl
      cases hl
    | some key =>
      rw [lookUp_after hgate hmethod (ne_empty_of_presentedKey? hp) hp hclock,
        Except.ok.injEq, Session.given_follow_eq_some_iff] at hl
      obtain ⟨before, begun, since, hsplit, hbegins, -⟩ := hl
      have hmem : begun ∈ d.transcript (initial window timeToLive start)
          (history.map Prod.snd) := by
        rw [hsplit]
        simp
      exact grants_of_mem_transcript hsame hmem (turn_eq_begins_iff.mp hbegins).1

section Sessions

variable [DecidableEq ι]

/-- The session of a key that was issued to nobody but one client is what the exchanges of this
client make of it: whoever else presents the key finds nothing under it. -/
theorem follow_filter_of_keepsApart (hgate : d.gate.storageMethod = .session)
    (hapart : d.KeepsApart exchanges)
    (hkey : ∀ other context, d.IssuedTo exchanges other key context → other = client)
    (window : Int) :
    follow window (·.2.visit.time) (d.turn key ·.2) none (exchanges.filter (·.1 = client)) =
      follow window (·.2.visit.time) (d.turn key ·.2) none exchanges := by
  apply Session.follow_filter
  rintro before ⟨other, e⟩ since hsplit hother
  have hother : other ≠ client := of_decide_eq_false hother
  have hnot : ∀ context, ¬ d.Issues e key context := by
    intro context hissues
    exact hother (hkey other context ⟨e, by rw [hsplit]; simp, hissues⟩)
  refine ⟨fun context hbegins => hnot context (turn_eq_begins_iff.mp hbegins), ?_⟩
  by_cases hp : e.visit.Presents key
  · right
    rintro ⟨issuer, issue⟩ hmem context hbegins
    have hissues := turn_eq_begins_iff.mp hbegins
    have hown : issuer = other :=
      (hapart before other e since hsplit).keys hgate key hp issuer context ⟨issue, hmem, hissues⟩
    have hclient : issuer = client :=
      hkey issuer context ⟨issue, by rw [hsplit]; simp [hmem], hissues⟩
    exact hother (hown.symm.trans hclient)
  · left
    rw [turn_of_not_issues hnot, if_neg fun hr => hp hr.1, if_neg fun hl => hp hl.2]

/-- If a client has noticed nothing so far, its keys stand for the same sessions as if it were
alone. -/
theorem follow_eq_alone (hgate : d.gate.storageMethod = .session)
    (hapart : d.KeepsApart (d.shared state history))
    (hkey : ∀ other context, d.IssuedTo (d.shared state history) other key context →
      other = client)
    (halone : d.AsIfAlone state history client) (window : Int) :
    follow window (·.visit.time) (d.turn key) none
        (d.transcript state (history.map Prod.snd)) =
      follow window (·.visit.time) (d.turn key) none
        (d.transcript state (visitsOf client history)) := by
  calc
    _ = follow window (·.2.visit.time) (d.turn key ·.2) none (d.shared state history) := by
      rw [← map_snd_shared, follow, List.foldl_map]
      rfl
    _ = follow window (·.2.visit.time) (d.turn key ·.2) none
        ((d.shared state history).filter (·.1 = client)) :=
      (follow_filter_of_keepsApart hgate hapart hkey window).symm
    _ = _ := Session.follow_eq_of_map_eq (fun _ _ => turn_eq_of_seen_eq d key) none halone

/-- What a visit finds in a run of its own is what it finds in a run that it shares. -/
theorem lookUp_eq_alone {window start timeToLive : Int}
    (hmethod : d.logout.storageMethod = d.gate.storageMethod)
    (hclock : (start :: ((history.map Prod.snd).map Visit.time ++ [v.time])).IsChain (· ≤ ·))
    (hapart : d.KeepsApart (d.shared (initial window timeToLive start) history))
    (hkeeps : d.KeepsTo (d.shared (initial window timeToLive start) history) client v)
    (halone : d.AsIfAlone (initial window timeToLive start) history client) :
    (Gate.lookUp d.gate d.site v.occasion v.request
        (d.after (initial window timeToLive start) (history.map Prod.snd))).1 =
      (Gate.lookUp d.gate d.site v.occasion v.request
        (d.after (initial window timeToLive start) (visitsOf client history))).1 := by
  cases hgate : d.gate.storageMethod with
  | cookie => simp only [Gate.lookUp, Storage.load, Site.storage, hgate]
  | session =>
    cases hp : Storage.presentedKey? v.request.headers with
    | none =>
      rw [Gate.lookUp, Gate.lookUp, Storage.load_of_not_presented hgate hp,
        Storage.load_of_not_presented hgate hp]
    | some key =>
      have hkey := ne_empty_of_presentedKey? hp
      have hpresents := (presentedKey?_eq_some_iff hkey).mp hp
      have hown : (start :: ((visitsOf client history).map Visit.time ++ [v.time])).IsChain
          (· ≤ ·) := by
        refine hclock.sublist (List.Sublist.cons_cons start (List.Sublist.append_right ?_ _))
        exact (List.filter_sublist.map Prod.snd).map Visit.time
      rw [lookUp_after hgate hmethod hkey hp hclock, lookUp_after hgate hmethod hkey hp hown,
        follow_eq_alone hgate hapart (hkeeps.keys hgate key hpresents) halone]

/-- A visit of a client that has noticed nothing so far is answered as if the client were alone. -/
theorem seen_serve_eq_alone {window start timeToLive : Int}
    (hmethod : d.logout.storageMethod = d.gate.storageMethod) (hbackend : backend.IsConsistent)
    (hsame : ∀ w ∈ history.map Prod.snd, w.occasion.backend = backend)
    (hclock : (start :: ((history.map Prod.snd).map Visit.time ++ [v.time])).IsChain (· ≤ ·))
    (hapart : d.KeepsApart (d.shared (initial window timeToLive start) history))
    (hkeeps : d.KeepsTo (d.shared (initial window timeToLive start) history) client v)
    (halone : d.AsIfAlone (initial window timeToLive start) history client) :
    (d.serve v (d.after (initial window timeToLive start) (history.map Prod.snd))).seen =
      (d.serve v (d.after (initial window timeToLive start) (visitsOf client history))).seen := by
  refine seen_serve_congr hmethod (lookUp_eq_alone hmethod hclock hapart hkeeps halone) ?_
  intro context hl
  have hgrants := grants_of_lookUp hmethod hsame hclock hkeeps hl
  have hempty : (initial window timeToLive start).connections.HoldsOnly (d.Grants backend) :=
    ConnectionCache.holdsOnly_empty timeToLive
  have hown : ∀ w ∈ visitsOf client history, w.occasion.backend = backend := fun w hw =>
    hsame w ((List.filter_sublist.map Prod.snd).subset hw)
  -- both caches give the context its own connection
  rw [resolve_after hbackend hsame hempty hgrants, resolve_after hbackend hown hempty hgrants]

private theorem visitsOf_concat_self (client : ι) (history : List (ι × Visit)) (v : Visit) :
    visitsOf client (history ++ [(client, v)]) = visitsOf client history ++ [v] := by
  simp [visitsOf]

private theorem visitsOf_concat_of_ne {other : ι} (h : other ≠ client)
    (history : List (ι × Visit)) (v : Visit) :
    visitsOf client (history ++ [(other, v)]) = visitsOf client history := by
  simp [visitsOf, h]

/-- Clients that keep to what they were issued do not notice each other: with a consistent backend
each gets the answers, and causes the calls, of a run of its own. -/
theorem asIfAlone_of_keepsApart (d : Deployment)
    (hmethod : d.logout.storageMethod = d.gate.storageMethod) {backend : IdentityBackend}
    (hbackend : backend.IsConsistent) (window timeToLive start : Int) (history : List (ι × Visit))
    (hsame : ∀ w ∈ history.map Prod.snd, w.occasion.backend = backend)
    (hclock : (start :: (history.map Prod.snd).map Visit.time).IsChain (· ≤ ·))
    (hapart : d.KeepsApart (d.shared (initial window timeToLive start) history))
    (client : ι) : d.AsIfAlone (initial window timeToLive start) history client := by
  induction history using List.reverseRecOn with
  | nil => rfl
  | append_singleton history x ih =>
    obtain ⟨who, v⟩ := x
    rw [shared_concat] at hapart
    rw [List.map_append, List.map_append] at hclock
    rw [List.map_append] at hsame
    have hbefore := fun w hw => hsame w (List.mem_append_left _ hw)
    have halone := ih hbefore hclock.left_of_append hapart.left_of_append
    rw [AsIfAlone, shared_concat, List.filter_append, List.map_append, halone]
    by_cases hwho : who = client
    · subst hwho
      have hlast := seen_serve_eq_alone hmethod hbackend hbefore hclock hapart.left_of_append
        (hapart _ who _ [] rfl) halone
      rw [visitsOf_concat_self, transcript_concat, List.map_append]
      simp [Exchange.seen, hlast]
    · rw [visitsOf_concat_of_ne hwho]
      simp [hwho]

end Sessions

/-! ## Keeping apart -/

/-- With server sessions clients keep apart as long as nobody presents a key that a login of another
client has drawn before. -/
theorem keepsApart_of_pairwise (hgate : d.gate.storageMethod = .session) (state : SharedState)
    (h : history.Pairwise fun earlier later =>
      (d.saves? earlier.2).isSome = true → later.2.Presents earlier.2.freshKey →
        earlier.1 = later.1) :
    d.KeepsApart (d.shared state history) := by
  rw [← d.map_visit_shared state history, List.pairwise_map] at h
  intro before client e since hsplit
  rw [hsplit, List.pairwise_append] at h
  refine ⟨fun _ key hp other context hissued => ?_, fun hcookie => ?_⟩
  · obtain ⟨issue, hmem, hsaves, -, rfl⟩ := hissued
    exact h.2.2 _ hmem _ List.mem_cons_self (by simp [hsaves]) hp
  · cases hgate.symm.trans hcookie

/-! ## Two sessions of one user -/

/-- A login that draws a key made of one octet. -/
def sampleLoginWith (now : Int) (octet : UInt8) : Visit :=
  let login := sampleVisit now "/_auth" (some "code=1") ""
  { login with
    occasion := { login.occasion with fresh := ⟨.replicate 12 0, .replicate 16 octet⟩ } }

/-- Two clients that log in as the same user. The second login replaces the user's connection and
the first logout drops it; the other client is still signed in and logs out later. -/
def sampleTurns : List (String × Visit) := [
  ("ann", sampleLoginWith 1 0),
  ("bob", sampleLoginWith 2 1),
  ("bob", sampleVisit 3 "/logout" none "force_session=01010101010141018101010101010101"),
  ("ann", sampleVisit 4 "/" none "force_session=00000000000040008000000000000000"),
  ("ann", sampleVisit 5 "/logout" none "force_session=00000000000040008000000000000000")]

/-- The backend that gives everybody the same token is consistent. -/
theorem isConsistent_sampleBackend : sampleBackend.IsConsistent where
  place := by
    rintro _ _ _ _ token token' ⟨⟩ ⟨⟩ _
    rfl
  user := by
    rintro _ _ _ _ token token' user user' _ _ _ ⟨⟩ ⟨⟩
    rfl

/-- The first client notices nothing of the second. -/
theorem asIfAlone_sampleTurns :
    (sample .session ⟨[]⟩).AsIfAlone (initial 10 100 0) sampleTurns "ann" :=
  asIfAlone_of_keepsApart (sample .session ⟨[]⟩) rfl isConsistent_sampleBackend 10 100 0 sampleTurns
    (by simp [sampleTurns, sampleLoginWith, sampleVisit]) (by decide +kernel)
    (keepsApart_of_pairwise rfl _ (by decide +kernel)) "ann"

/-- The page is shown after the other client's logout. -/
example : ((sample .session ⟨[]⟩).shared (initial 10 100 0) sampleTurns).map
    (fun x => (x.1, x.2.served.response.status)) =
      [("ann", 302), ("bob", 302), ("bob", 302), ("ann", 200), ("ann", 302)] := by
  decide +kernel

end Deployment

end SignOn
