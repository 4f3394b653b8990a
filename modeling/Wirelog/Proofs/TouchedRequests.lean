import Wirelog.Proofs.SubstitutedUrls

/-! What the stages leave of a request that they let pass. Three of them write into its headers,
each by what the policy says of the URL that the rules made: the authority of another URL, the
headers that were added to the policy, and the credentials for the host. They may mean the same
name, and then the last of them decides. All other names, and the request but for its URL and its
headers, stay as they were. -/
namespace Wirelog.TouchedRequests
open Http Policy PolicyLaws PolicyHistory RuledRequests HeaderLaws SubstitutedUrls

/-! ## The headers that a policy means -/

end Wirelog.TouchedRequests
