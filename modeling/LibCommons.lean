import LibCommons.Transaction.Bounds
import LibCommons.Outbox.Budget
import LibCommons.Idempotency.Fence
import LibCommons.Idempotency.RedisStore
import LibCommons.Outbox.Callbacks
import LibCommons.Outbox.MongoMarkFailed
import LibCommons.Outbox.Shutdown
import LibCommons.Dlq.Custody
import LibCommons.Rabbitmq.Confirmed
import LibCommons.Rabbitmq.Closing
import LibCommons.Ssrf.Spelling
import LibCommons.SecretsManager.ReferenceScope
import LibCommons.NetHttp.Paging
import LibCommons.RateLimit.Windows
import LibCommons.Sanitize.Settled
import LibCommons.Webhook.Delivery
import LibCommons.S3.Recovery
import LibCommons.Pacing.Spacing
import LibCommons.TenantManager.Probes
import LibCommons.TenantManager.Removal
import LibCommons.Outbox.Eviction
import LibCommons.TenantManager.SingleConsumer
import LibCommons.TenantManager.Reconnections
import LibCommons.TenantManager.Databases
import LibCommons.Outbox.Causes
import LibCommons.Transaction.Scope
import LibCommons.Transaction.Shares
import LibCommons.Idempotency.Identity
import LibCommons.Outbox.Retention
import LibCommons.Outbox.Scopes
import LibCommons.TenantManager.Namespaces
import LibCommons.TenantManager.Pools
import LibCommons.TenantManager.Configs
import LibCommons.Dlq.Keys
import LibCommons.TenantManager.Canonical
import LibCommons.SecretsManager.KafkaPaths
import LibCommons.Crypto.Sealer
