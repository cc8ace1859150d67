import QueryOptions.Url.Domain.Label

/-!
# Domains

A domain may be written in any script.  It is first brought to one form, in small letters and
composed characters, and then has to be in order label by label.
-/

namespace QueryOptions.Domain

/-- The one form of a domain, if it is in order.  Labels that are written in ASCII remain so. -/
def normalize? (t : Text) : Option Text :=
  (map? t).bind fun t =>
    let t := composed t
    if t.any isForbidden then none
    else
      ((t.splitOn '.').mapM Label.characters?).bind fun labels =>
        let fits :=
          labels.all Label.isWellFormed &&
            (!labels.any runsRightToLeft || labels.all staysTogether)
        if fits then some t else none

end QueryOptions.Domain
