import StreamedInference.Proofs.Registry.Withdrawal

/-!
# When a registry has taken a call

A call comes to a good end by the answer with which the chain of its requests ends: the answer to
the last request that reached a server, if it leads nowhere else. Most such answers count as a good
end, not only those of success: only a refusal does not, so that an answer which leads nowhere for
want of a place to go, or is none that a client knows, is taken for success. A chain without a final
answer fails, and so does a call of which no request can be made, always with a failure of the
registry.

## Main definitions

* `HttpResponse.IsSuccess`, `HttpResponse.IsRefusal`: two classes of answers.
* `Network.finalAnswer?`: the answer with which a chain of requests ends.
* `Network.IsTrail`: requests that follow from one another.

## Main results

* `HttpRequest.isTrail_follow`, `HttpRequest.length_follow_le`: what a client sends.
* `HttpRequest.follow_eq_ok_iff`: when a client is content.
* `Registry.acknowledged_iff`: when a registry has taken a call.
-/

namespace StreamedInference

namespace HttpResponse

/-- The server did what it was asked. -/
def IsSuccess (a : HttpResponse) : Prop :=
  200 ≤ a.code ∧ a.code < 300

/-- The server tells that the client or it itself made a mistake. -/
def IsRefusal (a : HttpResponse) : Prop :=
  400 ≤ a.code ∧ a.code < 600

theorem IsSuccess.not_isRefusal {a : HttpResponse} (h : a.IsSuccess) : ¬a.IsRefusal := fun h' =>
  absurd h.2 (Nat.not_lt.2 (Nat.le_trans (by decide) h'.1))

end HttpResponse

namespace Network

variable {net : Network} {sent : Nat} {r : HttpRequest} {rs : List HttpRequest}

/-- The answer with which a chain of requests ends, all of which reached servers: the one to the
last of them, if it leads nowhere else. `sent` requests were answered before. -/
def finalAnswer? (net : Network) (sent : Nat) (rs : List HttpRequest) : Option HttpResponse :=
  rs.getLast?.bind fun r =>
    (net.answer (sent + (rs.length - 1))).filter fun a => (r.redirection? a).isNone

@[simp] theorem finalAnswer?_nil : net.finalAnswer? sent [] = none :=
  rfl

@[simp] theorem finalAnswer?_singleton :
    net.finalAnswer? sent [r] = (net.answer sent).filter fun a => (r.redirection? a).isNone :=
  rfl

theorem finalAnswer?_cons (h : rs ≠ []) :
    net.finalAnswer? sent (r :: rs) = net.finalAnswer? (sent + 1) rs := by
  obtain ⟨q, rs, rfl⟩ := List.exists_cons_of_ne_nil h
  have hcount : sent + ((r :: q :: rs).length - 1) = sent + 1 + ((q :: rs).length - 1) := by
    simp only [List.length_cons]
    omega
  rw [finalAnswer?, hcount, List.getLast?_cons_cons]
  rfl

/-- The requests reach their servers, and each but the first is the one to which the answer to the
request before it leads. -/
inductive IsTrail (net : Network) : (sent : Nat) → List HttpRequest → Prop
  | nil (sent : Nat) : IsTrail net sent []
  | last {sent : Nat} {r : HttpRequest} (hreach : net.reaches r.url = true) : IsTrail net sent [r]
  | on {sent : Nat} {r : HttpRequest} {rs : List HttpRequest} {a : HttpResponse} {d : Destination}
      {url : Url} (hreach : net.reaches r.url = true) (ha : net.answer sent = some a)
      (hd : r.redirection? a = some d) (hurl : d.web? = some url)
      (h : IsTrail net (sent + 1) (r.redirected a.code url :: rs)) :
      IsTrail net sent (r :: r.redirected a.code url :: rs)

end Network

namespace HttpRequest

theorem judge_eq_ok_iff {r : HttpRequest} {a : HttpResponse} :
    r.judge a = .ok () ↔ ¬a.IsRefusal := by
  simp [judge, HttpResponse.IsRefusal]

variable (net : Network) (first : String) (left sent : Nat) (r : HttpRequest)

/-- What a client sends is a trail. -/
theorem isTrail_follow : net.IsTrail sent (r.follow net first left sent).1 := by
  fun_induction follow net first left sent r with
  | case1 left sent r hreach => exact .nil sent
  | case2 left sent r hreach | case3 left sent r hreach | case4 sent r hreach
  | case5 sent r hreach => exact .last (by simpa using hreach)
  | case6 sent r hreach a ha left d hd url hurl rs result hrest ih =>
    have hreach : net.reaches r.url = true := by simpa using hreach
    have hhead := head?_follow net first left (sent + 1) (r.redirected a.code url)
    rw [hrest] at hhead ih
    rcases rs with _ | ⟨q, rs⟩
    · exact .last hreach
    · obtain ⟨-, rfl⟩ := (Option.ite_none_right_eq_some.1 hhead.symm).imp_right Option.some.inj
      exact .on hreach ha hd hurl ih

/-- A client sends no more than it may after the first request. -/
theorem length_follow_le : (r.follow net first left sent).1.length ≤ left + 1 := by
  fun_induction follow net first left sent r with
  | case1 | case2 | case3 | case4 | case5 => simp
  | case6 sent r hreach a ha left d hd url hurl rs result hrest ih =>
    rw [hrest] at ih
    exact Nat.succ_le_succ ih

/-- A client is content with every final answer that is no refusal, and with nothing else. -/
theorem follow_eq_ok_iff : (r.follow net first left sent).2 = .ok () ↔
    ∃ a ∈ net.finalAnswer? sent (r.follow net first left sent).1, ¬a.IsRefusal := by
  fun_induction follow net first left sent r with
  | case1 | case2 left sent r hreach ha => simp [*]
  | case3 left sent r hreach a ha hd => simp [ha, hd, judge_eq_ok_iff]
  | case4 sent r hreach a ha d hd | case5 sent r hreach a ha left d hd => simp [ha, hd]
  | case6 sent r hreach a ha left d hd url hurl rs result hrest ih =>
    rw [hrest] at ih
    by_cases hrs : rs = []
    · subst hrs
      simpa [ha, hd] using ih
    · rw [Network.finalAnswer?_cons hrs]
      exact ih

end HttpRequest

/-- A request to put something is made of an address, or it is not. -/
theorem Network.put_eq_or (net : Network) (sent : Nat) (address : String) (body : Option Json) :
    (∃ f, net.put sent address body = ([], .error f)) ∨
      ∃ u : Url, net.put sent address body =
        HttpRequest.follow net u.toText mostRedirections sent ⟨.put, u.whole, body⟩ := by
  unfold put
  split
  · exact .inl ⟨_, rfl⟩
  · split
    · exact .inl ⟨_, rfl⟩
    · dsimp only
      split
      · exact .inl ⟨_, rfl⟩
      · exact .inr ⟨_, rfl⟩

/-- What is sent to put something, and when a client is content with what comes of it. -/
theorem Network.put_spec (net : Network) (sent : Nat) (address : String) (body : Option Json) :
    net.IsTrail sent (net.put sent address body).1 ∧
      (net.put sent address body).1.length ≤ mostRedirections + 1 ∧
      ((net.put sent address body).2 = .ok () ↔
        ∃ a ∈ net.finalAnswer? sent (net.put sent address body).1, ¬a.IsRefusal) := by
  obtain ⟨f, hput⟩ | ⟨u, hput⟩ := net.put_eq_or sent address body
  · rw [hput]
    exact ⟨.nil sent, Nat.zero_le _, by simp⟩
  · rw [hput]
    exact ⟨HttpRequest.isTrail_follow .., HttpRequest.length_follow_le ..,
      HttpRequest.follow_eq_ok_iff ..⟩

/-- Taking every final answer for a good end that is no refusal differs from taking those of success
only where there is an answer of neither kind. -/
theorem HttpResponse.forall_isSuccess_or_isRefusal_iff {final : Option HttpResponse} :
    ((∃ a ∈ final, ¬a.IsRefusal) ↔ ∃ a ∈ final, a.IsSuccess) ↔
      ∀ a ∈ final, a.IsSuccess ∨ a.IsRefusal := by
  cases final with
  | none => simp
  | some a =>
    have hdisjoint : a.IsSuccess → ¬a.IsRefusal := IsSuccess.not_isRefusal
    simp only [Option.mem_def, Option.some.injEq, exists_eq_left', forall_eq']
    tauto

namespace Registry

/-- An agent is asked by a request to put something; what goes wrong is told with its address. -/
theorem ask_of_true (address : String) (net : Network) (sent : Nat) (call : RegistryCall) :
    (Registry.of true address).ask net sent call =
      ((net.put sent (agentBase address ++ call.path) call.body).1,
        (net.put sent (agentBase address ++ call.path) call.body).2.mapError fun f =>
          .registry ("PUT " ++ (agentBase address ++ call.path) ++ ": " ++ f.message), []) := by
  rw [Registry.of, if_pos rfl]
  simp only [ask]

/-- **When a registry has taken a call.** Take any address of an agent and any network: whichever
servers take connections and whatever they answer. What is sent to register or to withdraw is a
trail with ten redirections at most. The call succeeds exactly if there is a final answer and it is
no refusal, and fails otherwise with a failure of the registry that tells the address. So success
is told exactly where the final answer is one of success, unless there is a final answer that is
neither one of success nor a refusal. -/
theorem acknowledged_iff (address : String) (net : Network) (sent : Nat) (call : RegistryCall) :
    let reply := (Registry.of true address).ask net sent call
    let final := net.finalAnswer? sent reply.1
    net.IsTrail sent reply.1 ∧ reply.1.length ≤ mostRedirections + 1 ∧
      (reply.2.1 = .ok () ↔ ∃ a ∈ final, ¬a.IsRefusal) ∧
      (reply.2.1 = .ok () ∨ ∃ f : HttpFault, reply.2.1 = .error (.registry
        ("PUT " ++ (agentBase address ++ call.path) ++ ": " ++ f.message))) ∧
      ((reply.2.1 = .ok () ↔ ∃ a ∈ final, a.IsSuccess) ↔
        ∀ a ∈ final, a.IsSuccess ∨ a.IsRefusal) := by
  obtain ⟨htrail, hlength, hput⟩ := net.put_spec sent (agentBase address ++ call.path) call.body
  simp only [ask_of_true]
  generalize net.put sent (agentBase address ++ call.path) call.body = put at htrail hlength hput ⊢
  obtain ⟨requests, result⟩ := put
  have hok : (result.mapError fun f : HttpFault => Failure.registry
        ("PUT " ++ (agentBase address ++ call.path) ++ ": " ++ f.message)) = .ok () ↔
      ∃ a ∈ net.finalAnswer? sent requests, ¬a.IsRefusal := by
    refine Iff.trans ?_ hput
    cases result <;> simp [Except.mapError]
  refine ⟨htrail, hlength, hok, ?_, ?_⟩
  · cases result with
    | ok => exact .inl rfl
    | error f => exact .inr ⟨f, rfl⟩
  · rw [hok]
    exact HttpResponse.forall_isSuccess_or_isRefusal_iff

/-- A network whose servers all take connections and answer that nothing has changed. -/
def unmoved : Network where
  reaches _ := true
  answer _ := some { code := 304, reason := "Not Modified" }

/-- **An answer that is not one of success can be taken for it.** -/
theorem acknowledged_of_unmoved :
    let reply := (Registry.of true "[::1]:8500").ask unmoved 0 (.deregister "svc-1.2.3.4-80")
    (reply.2.1 = .ok () ∧
      unmoved.finalAnswer? 0 reply.1 = some { code := 304, reason := "Not Modified" }) ∧
      ¬∀ address net sent call,
        ((Registry.of true address).ask net sent call).2.1 = .ok () ↔
          ∃ a ∈ net.finalAnswer? sent ((Registry.of true address).ask net sent call).1,
            a.IsSuccess := by
  intro reply
  have hok : reply.2.1 = .ok () := by decide +kernel
  have hfinal : unmoved.finalAnswer? 0 reply.1 =
      some { code := 304, reason := "Not Modified" } := by decide +kernel
  refine ⟨⟨hok, hfinal⟩, fun hclaim => ?_⟩
  obtain ⟨a, ha, hsuccess⟩ := (hclaim "[::1]:8500" unmoved 0 (.deregister "svc-1.2.3.4-80")).1 hok
  obtain rfl := Option.some.inj (hfinal.symm.trans ha)
  exact absurd hsuccess.2 (by decide)

end Registry

end StreamedInference
