import Custody.Proofs.Change

-- What the past of a run tells: which move was the latest of its kind, where each claim that
-- waits began, and what has happened since.

namespace Custody

-- What the last of some moves tells, of those that tell anything.
def latest (tells : Move → Option α) (past : List Move) : Option α := past.reverse.findSome? tells

theorem latest_append (tells : Move → Option α) (before after : List Move) :
    latest tells (before ++ after) = (latest tells after).or (latest tells before) := by
  simp [latest,List.findSome?_append]

theorem latest_concat (tells : Move → Option α) (past : List Move) (move : Move) :
    latest tells (past ++ [move]) = (tells move).or (latest tells past) := by
  rw [latest_append]
  cases said : tells move <;> simp [latest,said]

theorem latest_none {tells : Move → Option α} :
    latest tells past = none ↔ ∀ move ∈ past, tells move = none := by
  simp [latest]

theorem latest_suffix {tells : Move → Option α} (later : short <:+ long)
    (silent : latest tells long = none) : latest tells short = none :=
  latest_none.mpr fun move member => latest_none.mp silent move (later.subset member)

-- Something stands somewhere in a list that is longer by one: at its end, or where it stood before.
theorem concat_split {past before after : List α} {last move : α}
    (split : past ++ [last] = before ++ move :: after) :
    (after = [] ∧ past = before ∧ last = move) ∨
      ∃ rest, after = rest ++ [last] ∧ past = before ++ move :: rest := by
  rcases List.eq_nil_or_concat after with rfl | ⟨rest,final,rfl⟩
  · obtain ⟨same,equal⟩ := List.append_inj' split rfl
    exact .inl ⟨rfl,same,List.singleton_inj.mp equal⟩
  · have regrouped : past ++ [last] = (before ++ move :: rest) ++ [final] := by simpa using split
    obtain ⟨same,equal⟩ := List.append_inj' regrouped rfl
    exact .inr ⟨rest,by rw [List.concat_eq_append,equal],same⟩

-- What has happened since a claim began.
def Claim.during (claim : Claim) (past : List Move) : List Move := past.drop (claim.since+1)

theorem during_concat {claim : Claim} (known : claim.since < past.length) (move : Move) :
    claim.during (past ++ [move]) = claim.during past ++ [move] :=
  List.drop_append_of_le_length known

theorem during_begun {claim : Claim} (since : claim.since = past.length) (move : Move) :
    claim.during (past ++ [move]) = [] := by
  simp [Claim.during,since]

theorem split_began {claim : Claim} (began : past[claim.since]? = some (.began claim)) :
    past = past.take claim.since ++ .began claim :: claim.during past := by
  obtain ⟨known,same⟩ := List.getElem?_eq_some_iff.mp began
  rw [← same,Claim.during,← List.drop_eq_getElem_cons known,List.take_append_drop]

theorem latest_began {tells : Move → Option α} {claim : Claim}
    (began : past[claim.since]? = some (.began claim)) (silent : tells (.began claim) = none) :
    latest tells past =
      (latest tells (claim.during past)).or (latest tells (past.take claim.since)) := by
  have split : past = past.take claim.since ++ [.began claim] ++ claim.during past := by
    simpa using split_began began
  have before : latest tells (past.take claim.since ++ [.began claim]) =
      latest tells (past.take claim.since) := by
    rw [latest_concat,silent,Option.none_or]
  rw [← before,← latest_append,← split]

namespace Moment

-- What holds of a claim when it has begun, and is kept as long as it waits, holds while it waits.
theorem waiting_induction {claim : Claim} (holds : Moment → Prop)
    (begun : ∀ m next, Reached allowed m → Step m (.began claim) next → holds next)
    (kept : ∀ m move next, Reached allowed m → Step m move next → claim ∈ m.claims →
      holds m → holds next)
    (reached : Reached allowed m) (waits : claim ∈ m.claims) : holds m := by
  induction reached with
  | initial => cases waits
  | @step m move next before step _ ih =>
    have older (old : claim ∈ m.claims) : holds next := kept m move next before step old (ih old)
    have claims := step_claims step
    cases move with
    | performed operation outcome => exact older (claims ▸ waits)
    | noted book entry => exact older (claims ▸ waits)
    | decided other approved => exact older (claims ▸ List.mem_cons_of_mem _ waits)
    | began new =>
      rcases List.mem_cons.mp (claims.2 ▸ waits) with rfl | old
      · exact begun m next before step
      · exact older old

-- Every claim that waits stands in the past at the place that it gives.
theorem waiting_began (reached : Reached allowed m) (waits : claim ∈ m.claims) :
    m.past[claim.since]? = some (.began claim) := by
  refine waiting_induction (fun m => m.past[claim.since]? = some (.began claim))
    (fun m next _ step => ?_) (fun m move next _ step _ began => ?_) reached waits
  · rw [step_past step,(step_claims step).1]
    simp
  · rw [step_past step,List.getElem?_append_left (List.getElem?_eq_some_iff.mp began).1]
    exact began

theorem waiting_since (reached : Reached allowed m) (waits : claim ∈ m.claims) :
    claim.since < m.past.length :=
  (List.getElem?_eq_some_iff.mp (waiting_began reached waits)).1

-- The claims that wait lie in the order in which they began.
theorem waiting_ordered (reached : Reached allowed m) :
    m.claims.Pairwise (fun newer older => older.since < newer.since) := by
  induction reached with
  | initial => exact List.Pairwise.nil
  | @step m move next before step _ ih =>
    have claims := step_claims step
    cases move with
    | performed operation outcome => exact claims ▸ ih
    | noted book entry => exact claims ▸ ih
    | decided other approved => exact (List.pairwise_cons.mp (claims ▸ ih)).2
    | began new =>
      obtain ⟨since,claims⟩ := claims
      rw [claims]
      exact List.pairwise_cons.mpr ⟨fun older waits => since ▸ waiting_since before waits,ih⟩

theorem decided_waits (step : Step m (.decided claim approved) next) : claim ∈ m.claims := by
  have claims : m.claims = claim :: next.claims := step_claims step
  rw [claims]
  exact List.mem_cons_self

-- A claim goes on waiting through a move that has nothing to do with its application.
theorem waits_on (step : Step m move next) (waits : claim ∈ m.claims)
    (other : move.concerns claim.id = false) : claim ∈ next.claims := by
  have claims := step_claims step
  cases move with
  | performed operation outcome => exact claims ▸ waits
  | noted book entry => exact claims ▸ waits
  | began new => exact claims.2 ▸ List.mem_cons_of_mem _ waits
  | decided decided approved =>
    rcases List.mem_cons.mp (claims ▸ waits) with rfl | rest
    · simp [Move.concerns] at other
    · exact rest

theorem waited (step : Step m move next) (waits : claim ∈ next.claims) :
    claim ∈ m.claims ∨ move = .began claim := by
  have claims := step_claims step
  cases move with
  | performed operation outcome => exact .inl (claims ▸ waits)
  | noted book entry => exact .inl (claims ▸ waits)
  | decided decided approved => exact .inl (claims ▸ List.mem_cons_of_mem _ waits)
  | began new =>
    rcases List.mem_cons.mp (claims.2 ▸ waits) with rfl | old
    · exact .inr rfl
    · exact .inl old

theorem during_step (reached : Reached allowed m) (step : Step m move next)
    (waits : claim ∈ m.claims) :
    claim.during next.past = claim.during m.past ++ [move] := by
  rw [step_past step]
  exact during_concat (waiting_since reached waits) move

-- What has happened since the innermost claim began has happened since every other one began.
theorem during_innermost (reached : Reached allowed m) (front : m.claims = claim :: others)
    (waits : older ∈ m.claims) : claim.during m.past <:+ older.during m.past := by
  rw [front] at waits
  rcases List.mem_cons.mp waits with rfl | outer
  · exact List.suffix_refl _
  · have ordered := (List.pairwise_cons.mp (front ▸ waiting_ordered reached)).1 older outer
    have split : claim.since+1 = older.since+1 + (claim.since - older.since) := by omega
    unfold Claim.during
    rw [split,← List.drop_drop]
    exact List.drop_suffix _ _

end Moment

end Custody
